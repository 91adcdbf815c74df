import BoundSql.Text.Bytes

/-!
# The order of bytes

Texts are compared character by character. The same comes out when the bytes of
their UTF-8 forms are compared instead: a greater character has a greater first
byte or as many bytes, and these carry its bits with the highest in front.
-/

namespace BoundSql.Text

/-- The bytes of the UTF-8 form of a text. -/
def bytes (text : String) : List UInt8 := text.toUTF8.data.toList

/-- The bytes of a text are those of its characters, one behind the other and without any mark
in front. -/
theorem bytes_eq (text : String) : bytes text = text.toList.flatMap String.utf8EncodeChar := by
  have encoded : text.toUTF8 = (text.toList.flatMap String.utf8EncodeChar).toByteArray := by
    rw [String.toUTF8_eq_toByteArray]
    exact String.utf8Encode_toList.symm
  rw [bytes, encoded, List.toList_data_toByteArray]

/-- Bytes are compared as the numbers that they are. -/
theorem ofNat_cons_lt_iff {first second : Nat} (fits : first < 256) (alsoFits : second < 256)
    {rest others : List UInt8} :
    UInt8.ofNat first :: rest < UInt8.ofNat second :: others ↔
      first < second ∨ first = second ∧ rest < others := by
  rw [List.cons_lt_cons_iff, UInt8.lt_iff_toNat_lt, ← UInt8.toNat_inj, UInt8.toNat_ofNat',
    UInt8.toNat_ofNat', Nat.mod_eq_of_lt fits, Nat.mod_eq_of_lt alsoFits]

/-- A smaller character decides the order of bytes, whatever follows. The cases are the numbers
of bytes of the two; where these agree, the first byte that differs is compared. -/
theorem utf8EncodeChar_append_lt {c d : Char} (smaller : c < d) (rest others : List UInt8) :
    String.utf8EncodeChar c ++ rest < String.utf8EncodeChar d ++ others := by
  have below : c.val.toNat < d.val.toNat := smaller
  have bound : d.val.toNat < 0x110000 := by
    have valid := d.valid
    simp only [UInt32.isValidChar, Nat.isValidChar] at valid
    omega
  unfold String.utf8EncodeChar
  generalize c.val.toNat = first at below
  generalize d.val.toNat = second at below bound
  have twice : ∀ n : Nat, n / 4096 = n / 64 / 64 := fun n => (Nat.div_div_eq_div_mul n 64 64).symm
  have thrice : ∀ n : Nat, n / 262144 = n / 64 / 64 / 64 := by
    intro n
    rw [Nat.div_div_eq_div_mul, Nat.div_div_eq_div_mul]
  simp only [twice, thrice]
  -- One case for each pair of widths; in those that the order excludes, the bounds contradict.
  repeat' split
  all_goals
    simp (disch := omega) only [List.cons_append, List.nil_append, ofNat_cons_lt_iff]
    omega

/-- Smaller texts have smaller bytes. Induct over the texts: equal characters have equal bytes,
and the first that differ decide. -/
theorem flatMap_utf8EncodeChar_lt {first second : List Char} (smaller : first < second) :
    first.flatMap String.utf8EncodeChar < second.flatMap String.utf8EncodeChar := by
  induction first generalizing second with
  | nil =>
    cases second with
    | nil => exact absurd smaller (List.lt_irrefl [])
    | cons d others =>
      cases encoded : String.utf8EncodeChar d with
      | nil => exact absurd encoded String.utf8EncodeChar_ne_nil
      | cons byte behind => simp [encoded]
  | cons c rest inductionHypothesis =>
    cases second with
    | nil => exact absurd smaller (List.not_lt_nil _)
    | cons d others =>
      rw [List.flatMap_cons, List.flatMap_cons]
      obtain before | ⟨rfl, later⟩ := List.cons_lt_cons_iff.mp smaller
      · exact utf8EncodeChar_append_lt before _ _
      · exact List.append_left_lt (inductionHypothesis later)

/-- The order of texts is the order of their bytes. One direction is enough, since both orders
are total. -/
theorem lt_iff_bytes_lt {first second : String} : first < second ↔ bytes first < bytes second := by
  have grows : ∀ {lower upper : String}, lower < upper → bytes lower < bytes upper := by
    intro lower upper smaller
    rw [bytes_eq, bytes_eq]
    exact flatMap_utf8EncodeChar_lt (String.lt_iff.mp smaller)
  constructor
  · exact grows
  · intro smaller
    rcases Std.lt_trichotomy first second with before | rfl | behind
    · exact before
    · exact absurd smaller (List.lt_irrefl _)
    · exact absurd (grows behind) (List.lt_asymm smaller)

end BoundSql.Text
