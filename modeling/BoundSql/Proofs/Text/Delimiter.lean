import BoundSql.Proofs.Text.Numeral

/-!
# Fields that end by themselves

A text is written field behind field, and a reader must find where one ends. A
field is ended by a character that none of its own can be, or its writer is such
that two texts that continue equally were written for equal things. The latter
is `EndsAt`; it is proved for numerals here and for larger fields from their
parts, always with the rest of the text left arbitrary.
-/

namespace BoundSql.Text

variable {α β : Type}

/-- Behind a field follows a stop character and then anything. Equal texts were
written for equal things, and what follows them is equal too. -/
def EndsAt (stop : Char) (write : α → List Char) : Prop :=
  ∀ (first second : α) (rest other : List Char),
    write first ++ stop :: rest = write second ++ stop :: other → first = second ∧ rest = other

/-- Two rows of characters of one kind, each followed by a character of another
kind, are cut at the same place when the texts are equal. -/
theorem eq_of_delimited (isInside : Char → Bool) {first second : List Char} {stop halt : Char}
    {rest other : List Char} (inside : ∀ c ∈ first, isInside c = true)
    (within : ∀ c ∈ second, isInside c = true) (outside : isInside stop = false)
    (beyond : isInside halt = false)
    (same : first ++ stop :: rest = second ++ halt :: other) :
    first = second ∧ stop = halt ∧ rest = other := by
  induction first generalizing second with
  | nil =>
    cases second with
    | nil => exact ⟨rfl, List.cons.inj same⟩
    | cons c tail =>
      -- The stop character would have to be one of the second row.
      have met : stop = c := (List.cons.inj same).1
      rw [met, within c List.mem_cons_self] at outside
      exact Bool.noConfusion outside
  | cons c tail inductionHypothesis =>
    cases second with
    | nil =>
      have met : c = halt := (List.cons.inj same).1
      rw [← met, inside c List.mem_cons_self] at beyond
      exact Bool.noConfusion beyond
    | cons d remaining =>
      obtain ⟨rfl, sameTail⟩ := List.cons.inj same
      obtain ⟨rfl, ends⟩ := inductionHypothesis
        (fun x member => inside x (List.mem_cons_of_mem c member))
        (fun x member => within x (List.mem_cons_of_mem c member)) sameTail
      exact ⟨rfl, ends⟩

/-- An injective writer whose characters are all of a kind that the stop character is not of. It
ends there because the first character of another kind can only be the stop. -/
theorem endsAt_of_injective {isInside : Char → Bool} {stop : Char} {write : α → List Char}
    (inside : ∀ thing, ∀ c ∈ write thing, isInside c = true) (outside : isInside stop = false)
    (injective : ∀ first second, write first = write second → first = second) :
    EndsAt stop write := by
  intro first second rest other same
  obtain ⟨sameField, -, sameRest⟩ :=
    eq_of_delimited isInside (inside first) (inside second) outside outside same
  exact ⟨injective first second sameField, sameRest⟩

/-- Two fields with a stop character between them and one behind them. The first field is cut
off before the second one is looked at. -/
theorem EndsAt.pair {between behind : Char} {write : α → List Char} {writeNext : β → List Char}
    (head : EndsAt between write) (last : EndsAt behind writeNext) :
    EndsAt behind fun pair : α × β => write pair.1 ++ between :: writeNext pair.2 := by
  rintro ⟨first, next⟩ ⟨second, following⟩ rest other same
  simp only [List.append_assoc, List.cons_append] at same
  obtain ⟨rfl, sameTail⟩ := head first second _ _ same
  obtain ⟨rfl, sameRest⟩ := last next following rest other sameTail
  exact ⟨rfl, sameRest⟩

/-- A padded numeral ends at any character that is not one of a numeral. The width is the same
for both numerals; their numbers may be of any size. -/
theorem endsAt_padLeft_toDigits {base : Nat} (large : 1 < base) (small : base ≤ 16) (width : Nat)
    {stop : Char} (outside : isNumeralChar stop = false) :
    EndsAt stop fun value => padLeft '0' width (Nat.toDigits base value) :=
  endsAt_of_injective (fun _ _ member => isNumeralChar_of_mem_padLeft large small member) outside
    fun _ _ same => padLeft_toDigits_injective large small same

/-- An unpadded numeral ends at any character that is not one of a numeral. -/
theorem endsAt_toDigits {base : Nat} (large : 1 < base) (small : base ≤ 16)
    {stop : Char} (outside : isNumeralChar stop = false) :
    EndsAt stop (Nat.toDigits base) :=
  endsAt_of_injective (fun _ _ member => isNumeralChar_of_mem_toDigits large small member) outside
    fun _ _ same => toDigits_injective large small same

/-- A numeral is never the empty text, so it starts with a numeral character. -/
theorem padLeft_toDigits_eq_cons {base : Nat} (large : 1 < base) (small : base ≤ 16)
    (width value : Nat) :
    ∃ c tail, padLeft '0' width (Nat.toDigits base value) = c :: tail ∧ isNumeralChar c = true := by
  cases written : padLeft '0' width (Nat.toDigits base value) with
  | nil => simp [padLeft] at written
  | cons c tail =>
    have member : c ∈ padLeft '0' width (Nat.toDigits base value) := by simp [written]
    exact ⟨c, tail, rfl, isNumeralChar_of_mem_padLeft large small member⟩

/-- A sign and a numeral behind it, if both together determine the thing. The
sign ends where the first digit stands. -/
theorem endsAt_signed {base : Nat} (large : 1 < base) (small : base ≤ 16) {stop : Char}
    {sign : α → List Char} {width magnitude : α → Nat}
    (signed : ∀ thing, ∀ c ∈ sign thing, isNumeralChar c = false)
    (outside : isNumeralChar stop = false)
    (injective : ∀ first second, sign first = sign second →
      magnitude first = magnitude second → first = second) :
    EndsAt stop fun thing =>
      sign thing ++ padLeft '0' (width thing) (Nat.toDigits base (magnitude thing)) := by
  intro first second rest other same
  obtain ⟨c, tail, written, digit⟩ :=
    padLeft_toDigits_eq_cons large small (width first) (magnitude first)
  obtain ⟨d, remaining, shown, numeral⟩ :=
    padLeft_toDigits_eq_cons large small (width second) (magnitude second)
  have cut : sign first ++ c :: (tail ++ stop :: rest) =
      sign second ++ d :: (remaining ++ stop :: other) := by
    simpa only [written, shown, List.append_assoc, List.cons_append] using same
  obtain ⟨sameSign, sameDigit, sameTail⟩ :=
    eq_of_delimited (fun x => !isNumeralChar x)
      (fun x member => by simp [signed first x member])
      (fun x member => by simp [signed second x member]) (by simp [digit]) (by simp [numeral]) cut
  have sameNumeral : padLeft '0' (width first) (Nat.toDigits base (magnitude first)) ++
      stop :: rest = padLeft '0' (width second) (Nat.toDigits base (magnitude second)) ++
      stop :: other := by
    rw [written, shown, List.cons_append, List.cons_append, sameDigit, sameTail]
  obtain ⟨sameText, -, sameRest⟩ := eq_of_delimited isNumeralChar
    (fun _ member => isNumeralChar_of_mem_padLeft large small member)
    (fun _ member => isNumeralChar_of_mem_padLeft large small member) outside outside sameNumeral
  have sameMagnitude := padLeft_toDigits_injective large small sameText
  exact ⟨injective first second sameSign sameMagnitude, sameRest⟩

/-- A decimal integer ends at any character that is not one of a numeral, with its sign read as
part of it. -/
theorem endsAt_int {stop : Char} (outside : isNumeralChar stop = false) :
    EndsAt stop fun value : Int => (toString value).toList := by
  have written : (fun value : Int => (toString value).toList) = fun value =>
      (if value < 0 then ['-'] else []) ++ padLeft '0' 0 (Nat.toDigits 10 value.natAbs) := by
    funext value
    rw [padLeft_zero, toList_toString_int]
  rw [written]
  refine endsAt_signed (by decide) (by decide) ?_ outside ?_
  · intro value c member
    by_cases negative : value < 0
    · simp only [negative, if_true, List.mem_singleton] at member
      exact member ▸ by decide
    · simp [negative] at member
  · intro first second sameSign sameMagnitude
    by_cases negative : first < 0 <;> by_cases below : second < 0 <;>
      simp [negative, below] at sameSign <;> omega

end BoundSql.Text
