import BoundSql.Proofs.Text.Numeral
import BoundSql.Proofs.Text.Pieces

/-!
# Numerals that are read

Which texts are read as a signed word: decimal digits, at least one, behind an
optional sign, whose number is in the range. Zeros in front do not count, and
nothing may stand around the numeral, unless blanks are trimmed before.
-/

namespace BoundSql.Text

/-- A row of decimal digits, with at least one. Zeros may stand in front, and digits of other
scripts are none. -/
def IsDigits (text : List Char) : Prop :=
  text ≠ [] ∧ ∀ c ∈ text, '0' ≤ c ∧ c ≤ '9'

/-- The number that a row of decimal digits stands for. Of a text that is no such row it says
nothing. -/
def decimalValue (digits : List Char) : Nat :=
  digits.foldl (fun value c => value * 10 + (c.toNat - '0'.toNat)) 0

/-- A numeral of a signed 64-bit word. Behind a minus sign there is one number more than
without, so the two bounds differ by one. -/
def IsInt64Literal (text : List Char) : Prop :=
  ∃ digits, IsDigits digits ∧
    ((text = digits ∨ text = '+' :: digits) ∧ decimalValue digits < 2 ^ 63 ∨
      text = '-' :: digits ∧ decimalValue digits ≤ 2 ^ 63)

/-- The decimal digits are the characters from `0` to `9`. -/
theorem digitValue?_ten (c : Char) : digitValue? 10 c =
    if '0' ≤ c ∧ c ≤ '9' then some (c.toNat - '0'.toNat) else none := by
  unfold digitValue?
  by_cases digit : '0' ≤ c ∧ c ≤ '9'
  · have small : c.toNat ≤ '9'.toNat := digit.2
    have below : c.toNat - '0'.toNat < 10 := by
      have nine : '9'.toNat = 57 := rfl
      have zero : '0'.toNat = 48 := rfl
      omega
    rw [if_pos digit, if_pos digit, Option.filter_some, if_pos (decide_eq_true below)]
  · simp only [if_neg digit]
    split
    · simp [Option.filter]
    · split
      · simp [Option.filter]
      · rfl

/-- A row of characters is read behind a number already read exactly if all are digits. Induct
over the row, with the number left arbitrary. -/
theorem foldlM_digits_eq_some_iff {digits : List Char} {start value : Nat} :
    digits.foldlM (fun read c => (digitValue? 10 c).map (read * 10 + ·)) start = some value ↔
      (∀ c ∈ digits, '0' ≤ c ∧ c ≤ '9') ∧
        digits.foldl (fun read c => read * 10 + (c.toNat - '0'.toNat)) start = value := by
  induction digits generalizing start with
  | nil => simp
  | cons c rest inductionHypothesis =>
    rw [List.foldlM_cons, digitValue?_ten, List.forall_mem_cons, List.foldl_cons]
    by_cases digit : '0' ≤ c ∧ c ≤ '9'
    · simp only [if_pos digit, Option.map_some, Option.bind_eq_bind, Option.bind_some,
        inductionHypothesis]
      simp [digit]
    · simp [digit]

/-- A row of characters is read as a number exactly if all are digits, and there
is one. -/
theorem naturalOf?_eq_some_iff {digits : List Char} {value : Nat} :
    naturalOf? 10 digits = some value ↔ IsDigits digits ∧ decimalValue digits = value := by
  unfold naturalOf? IsDigits decimalValue
  cases digits with
  | nil => simp
  | cons c rest =>
    rw [List.isEmpty_cons, if_neg Bool.false_ne_true, foldlM_digits_eq_some_iff]
    simp

/-- A minus sign is read as one. -/
theorem signed?_minus (digits : List Char) :
    signed? ('-' :: digits) = (naturalOf? 10 digits).map fun value : Nat => -(value : Int) := by
  change ((naturalOf? 10 digits).bind fun value => some (value : Int)).map (- ·) = _
  cases naturalOf? 10 digits <;> rfl

/-- A text without a sign is read as its number. -/
theorem signed?_unsigned {text : List Char} (noPlus : ∀ digits, text ≠ '+' :: digits)
    (noMinus : ∀ digits, text ≠ '-' :: digits) :
    signed? text = (naturalOf? 10 text).map Int.ofNat := by
  unfold signed?
  split
  · exact absurd rfl (noPlus _)
  · exact absurd rfl (noMinus _)
  · rfl

/-- A row of digits does not start with a sign, or with any other character below the digits. -/
theorem IsDigits.ne_cons {text : List Char} (row : IsDigits text) {sign : Char}
    (small : sign < '0') (rest : List Char) : text ≠ sign :: rest := by
  rintro rfl
  exact absurd small (Nat.not_lt.mpr (row.2 sign List.mem_cons_self).1)

/-- A text is read as an integer exactly if it is that integer's numeral behind an optional
sign. A zero may have either sign. -/
theorem signed?_eq_some_iff {text : List Char} {value : Int} :
    signed? text = some value ↔ ∃ digits, IsDigits digits ∧
      ((text = digits ∨ text = '+' :: digits) ∧ value = decimalValue digits ∨
        text = '-' :: digits ∧ value = -(decimalValue digits : Int)) := by
  constructor
  · intro read
    by_cases plus : ∃ digits, text = '+' :: digits
    · obtain ⟨digits, rfl⟩ := plus
      obtain ⟨number, known, rfl⟩ := Option.map_eq_some_iff.mp read
      obtain ⟨row, rfl⟩ := naturalOf?_eq_some_iff.mp known
      exact ⟨digits, row, Or.inl ⟨Or.inr rfl, rfl⟩⟩
    · by_cases minus : ∃ digits, text = '-' :: digits
      · obtain ⟨digits, rfl⟩ := minus
        rw [signed?_minus] at read
        obtain ⟨number, known, rfl⟩ := Option.map_eq_some_iff.mp read
        obtain ⟨row, rfl⟩ := naturalOf?_eq_some_iff.mp known
        exact ⟨digits, row, Or.inr ⟨rfl, rfl⟩⟩
      · rw [signed?_unsigned (not_exists.mp plus) (not_exists.mp minus)] at read
        obtain ⟨number, known, rfl⟩ := Option.map_eq_some_iff.mp read
        obtain ⟨row, rfl⟩ := naturalOf?_eq_some_iff.mp known
        exact ⟨text, row, Or.inl ⟨Or.inl rfl, rfl⟩⟩
  · rintro ⟨digits, row, ⟨rfl | rfl, rfl⟩ | ⟨rfl, rfl⟩⟩
    · rw [signed?_unsigned (row.ne_cons (by decide)) (row.ne_cons (by decide)),
        naturalOf?_eq_some_iff.mpr ⟨row, rfl⟩]
      rfl
    · change (naturalOf? 10 digits).map Int.ofNat = _
      rw [naturalOf?_eq_some_iff.mpr ⟨row, rfl⟩]
      rfl
    · rw [signed?_minus, naturalOf?_eq_some_iff.mpr ⟨row, rfl⟩]
      rfl

/-- The range of a signed word. -/
theorem int64OfInt?_isSome_iff {value : Int} :
    (int64OfInt? value).isSome = true ↔ -2 ^ 63 ≤ value ∧ value < 2 ^ 63 := by
  unfold int64OfInt?
  by_cases fits : -0x8000000000000000 ≤ value ∧ value < 0x8000000000000000
  · rw [if_pos fits]
    simpa using fits
  · rw [if_neg fits]
    simpa using fits

/-- A text is read as a signed word exactly if it is a numeral of one; a blank anywhere in it is
enough to refuse it. -/
theorem int64?_isSome_iff {text : List Char} :
    (int64? text).isSome = true ↔ IsInt64Literal text := by
  have read : (int64? text).isSome = true ↔
      ∃ value, signed? text = some value ∧ -2 ^ 63 ≤ value ∧ value < 2 ^ 63 := by
    unfold int64?
    cases signed? text with
    | none => simp
    | some value =>
      rw [Option.bind_some, int64OfInt?_isSome_iff]
      simp
  rw [read]
  constructor
  · rintro ⟨value, known, below, above⟩
    obtain ⟨digits, row, ⟨written, rfl⟩ | ⟨written, rfl⟩⟩ := signed?_eq_some_iff.mp known
    · exact ⟨digits, row, Or.inl ⟨written, by exact_mod_cast above⟩⟩
    · exact ⟨digits, row, Or.inr ⟨written, by omega⟩⟩
  · rintro ⟨digits, row, ⟨written, small⟩ | ⟨written, small⟩⟩
    · exact ⟨_, signed?_eq_some_iff.mpr ⟨digits, row, Or.inl ⟨written, rfl⟩⟩, by omega, by omega⟩
    · exact ⟨_, signed?_eq_some_iff.mpr ⟨digits, row, Or.inr ⟨written, rfl⟩⟩, by omega, by omega⟩

/-- A word is read from the number that it is, and from no other. -/
theorem int64OfInt?_eq_some_iff {value : Int} {word : Int64} :
    int64OfInt? value = some word ↔ value = word.toInt := by
  have below := word.toInt_lt
  have above := word.le_toInt
  unfold int64OfInt?
  split
  · rename_i fits
    rw [Option.some_inj]
    constructor
    · rintro rfl
      exact (Int64.toInt_ofInt_of_le fits.1 fits.2).symm
    · rintro rfl
      exact Int64.ofInt_toInt word
  · rename_i outside
    refine iff_of_false (fun impossible => by cases impossible) ?_
    rintro rfl
    exact outside ⟨above, below⟩

/-! ## Numerals between blanks -/

/-- A numeral of an integer: decimal digits, any of them zeros in front, perhaps behind a sign. -/
def IsSignedNumeralOf (value : Int) (text : List Char) : Prop :=
  ∃ digits, IsDigits digits ∧
    ((text = digits ∨ text = '+' :: digits) ∧ value = decimalValue digits ∨
      text = '-' :: digits ∧ value = -(decimalValue digits : Int))

/-- A text that spells an integer: a numeral of it, with blanks around it or without. -/
def Spells (text : String) (value : Int) : Prop :=
  ∃ lead numeral trail, text.toList = lead ++ (numeral ++ trail) ∧
    (∀ c ∈ lead, isBlank c = true) ∧ (∀ c ∈ trail, isBlank c = true) ∧
      IsSignedNumeralOf value numeral

/-- No digit is blank, so trimming takes nothing off a row of digits. -/
theorem IsDigits.shown {digits : List Char} (row : IsDigits digits) :
    ∀ c ∈ digits, isBlank c = false := by
  intro c member
  obtain ⟨least, most⟩ := row.2 c member
  have above : 48 ≤ c.toNat := least
  have below : c.toNat ≤ 57 := most
  simp only [isBlank, Bool.or_eq_false_iff, Bool.and_eq_false_iff, decide_eq_false_iff_not,
    beq_eq_false_iff_ne]
  omega

/-- There are no blanks in a numeral, neither between its digits nor behind its sign. -/
theorem IsSignedNumeralOf.shown {value : Int} {text : List Char}
    (numeral : IsSignedNumeralOf value text) : ∀ c ∈ text, isBlank c = false := by
  obtain ⟨digits, row, ⟨rfl | rfl, -⟩ | ⟨rfl, -⟩⟩ := numeral
  · exact row.shown
  · exact List.forall_mem_cons.mpr ⟨rfl, row.shown⟩
  · exact List.forall_mem_cons.mpr ⟨rfl, row.shown⟩

/-- A trimmed text is read as an integer exactly if the text spells it. The numeral is what
stands between the blanks, which are found again from the trimmed text. -/
theorem signed?_trimChars_eq_some_iff {text : String} {value : Int} :
    signed? (trimChars text.toList) = some value ↔ Spells text value := by
  rw [signed?_eq_some_iff]
  constructor
  · intro numeral
    obtain ⟨lead, trail, parts, blankLead, blankTrail⟩ := exists_around_trimChars text.toList
    exact ⟨lead, _, trail, parts, blankLead, blankTrail, numeral⟩
  · rintro ⟨lead, numeral, trail, parts, blankLead, blankTrail, spelled⟩
    rw [parts, trimChars_prepend blankLead, trimChars_append blankTrail,
      trimChars_eq_self spelled.shown]
    exact spelled

/-- A trimmed text is read as a signed word exactly if the text spells its number. -/
theorem int64?_trimChars_eq_some_iff {text : String} {word : Int64} :
    int64? (trimChars text.toList) = some word ↔ Spells text word.toInt := by
  rw [int64?, Option.bind_eq_some_iff]
  simp only [int64OfInt?_eq_some_iff, signed?_trimChars_eq_some_iff]
  constructor
  · rintro ⟨value, spelled, rfl⟩
    exact spelled
  · exact fun spelled => ⟨word.toInt, spelled, rfl⟩

/-! ## Natural numbers behind an optional plus sign -/

/-- A numeral of a natural number: decimal digits, perhaps behind a plus sign. -/
def IsNumeralOf (value : Nat) (text : List Char) : Prop :=
  ∃ digits, IsDigits digits ∧ (text = digits ∨ text = '+' :: digits) ∧ decimalValue digits = value

/-- A natural number is read from its numeral. -/
theorem naturalOf?_toDigits (value : Nat) : naturalOf? 10 (Nat.toDigits 10 value) = some value := by
  rw [← padLeft_zero (Nat.toDigits 10 value)]
  exact naturalOf?_padLeft_toDigits (by decide) (by decide) 0 value

/-- An integer is read from its numeral. -/
theorem signed?_toString (value : Int) : signed? (toString value).toList = some value := by
  obtain ⟨row, read⟩ := naturalOf?_eq_some_iff.mp (naturalOf?_toDigits value.natAbs)
  refine signed?_eq_some_iff.mpr ⟨_, row, ?_⟩
  rw [toList_toString_int, read]
  by_cases negative : value < 0
  · rw [if_pos negative]
    exact Or.inr ⟨rfl, by omega⟩
  · rw [if_neg negative]
    exact Or.inl ⟨Or.inl rfl, by omega⟩

/-- A signed word is read from its numeral. -/
theorem int64?_toString (value : Int64) : int64? (toString value.toInt).toList = some value := by
  have below := value.toInt_lt
  have above := value.le_toInt
  rw [int64?, signed?_toString, Option.bind_some, int64OfInt?, if_pos (by omega), Int64.ofInt_toInt]

end BoundSql.Text
