import BoundSql.Proofs.Value.Canonical

/-!
# What fingerprints tell apart

A fingerprint writes the eight words of a digest with eight digits each, so it
is equal to another one exactly if the digests are. Whether digests tell two
texts apart is the one thing that is assumed about SHA-256, and it is assumed of
the canonical texts at hand only.
-/

namespace BoundSql

open Text

/-- The digest of a text's bytes. Nothing is assumed about it here but how it is computed. -/
def Digest.ofText (text : String) : List UInt32 := Digest.sha256 text.toUTF8.toList

/-- A digest has eight words, whatever the message is. -/
theorem Digest.length_ofText (text : String) : (Digest.ofText text).length = 8 := rfl

/-- A word takes exactly eight hexadecimal digits. -/
theorem Text.length_hexadecimal_word (word : UInt32) :
    (hexadecimal 8 word.toNat).toList.length = 8 := by
  have fits : word.toNat < 16 ^ 8 := word.toNat_lt
  have short := (Nat.length_toDigits_le_iff (by decide : 1 < 16) (by decide : 0 < 8)).mpr fits
  simp only [hexadecimal, padLeft, String.toList_ofList, List.length_append, List.length_replicate]
  omega

/-- A word is the only one with its digits. -/
theorem Text.hexadecimal_word_injective {first second : UInt32}
    (same : (hexadecimal 8 first.toNat).toList = (hexadecimal 8 second.toNat).toList) :
    first = second := by
  simp only [hexadecimal, String.toList_ofList] at same
  exact UInt32.toNat_inj.mp (padLeft_toDigits_injective (by decide) (by decide) same)

/-- Equally many words with the same digits behind each other are the same
words: each takes eight of the digits. -/
theorem Text.eq_of_flatMap_hexadecimal {first second : List UInt32}
    (length : first.length = second.length)
    (same : first.flatMap (fun word => (hexadecimal 8 word.toNat).toList) =
      second.flatMap (fun word => (hexadecimal 8 word.toNat).toList)) : first = second := by
  induction first generalizing second with
  | nil => exact (List.eq_nil_of_length_eq_zero length.symm).symm
  | cons word rest inductionHypothesis =>
    cases second with
    | nil => simp at length
    | cons other remaining =>
      simp only [List.flatMap_cons] at same
      have width : (hexadecimal 8 word.toNat).toList.length =
          (hexadecimal 8 other.toNat).toList.length := by
        rw [length_hexadecimal_word, length_hexadecimal_word]
      obtain ⟨digits, sameRest⟩ := List.append_inj same width
      rw [hexadecimal_word_injective digits, inductionHypothesis (Nat.succ.inj length) sameRest]

namespace Value

/-- A fingerprint is the digest of the canonical text in hexadecimal. -/
theorem fingerprint_eq (value : Value) : value.fingerprint =
    String.join ((Digest.ofText value.canonical).map fun word => hexadecimal 8 word.toNat) := rfl

/-- A fingerprint holds the whole digest and nothing else, so that fingerprints are equal
exactly if the digests are. -/
theorem fingerprint_eq_iff_digest (first second : Value) :
    first.fingerprint = second.fingerprint ↔
      Digest.ofText first.canonical = Digest.ofText second.canonical := by
  have length : (Digest.ofText first.canonical).length =
      (Digest.ofText second.canonical).length := by
    rw [Digest.length_ofText, Digest.length_ofText]
  rw [fingerprint_eq, fingerprint_eq]
  generalize Digest.ofText first.canonical = words at length
  generalize Digest.ofText second.canonical = others at length
  constructor
  · intro same
    have digits := String.toList_inj.mpr same
    simp only [String.toList_join, List.flatMap_map] at digits
    exact eq_of_flatMap_hexadecimal length digits
  · intro same
    rw [same]

/-- The digests of these values' canonical texts tell the texts apart. It is assumed of the
values at hand only: of all texts it would be false, since there are more texts than digests. -/
def DigestsApart (values : List Value) : Prop :=
  ∀ first ∈ values, ∀ second ∈ values,
    Digest.ofText first.canonical = Digest.ofText second.canonical →
      first.canonical = second.canonical

/-- Among values whose digests are apart, a fingerprint is the value's own. Both values must be
among them. -/
theorem eq_of_fingerprint {values : List Value} (apart : DigestsApart values)
    {first second : Value} (member : first ∈ values) (other : second ∈ values)
    (same : first.fingerprint = second.fingerprint) : first = second :=
  canonical_injective
    (apart first member second other ((fingerprint_eq_iff_digest first second).mp same))

/-- The canonical text of a value is its own: texts are equal exactly if the
values are, doubles told apart by their bits and times by all their numbers. A
fingerprint is the value's own too, as far as the digest tells the two texts
apart. -/
theorem identified_by_canonical_text (first second : Value) :
    (first.canonical = second.canonical ↔ first = second) ∧
      ((Digest.ofText first.canonical = Digest.ofText second.canonical →
          first.canonical = second.canonical) →
        (first.fingerprint = second.fingerprint ↔ first = second)) := by
  have sameValue : first.canonical = second.canonical ↔ first = second :=
    ⟨canonical_injective, congrArg canonical⟩
  refine ⟨sameValue, fun apart => ?_⟩
  rw [fingerprint_eq_iff_digest, ← sameValue]
  exact ⟨apart, congrArg Digest.ofText⟩

/-- A text that imitates a whole array is told from that array, and the digests
of the two are apart. -/
theorem imitation_has_other_fingerprint :
    let array := Value.array [.int 1, .string ";]"]
    let imitation := Value.string "2[int:1;string:2:;];]"
    (Digest.ofText array.canonical = Digest.ofText imitation.canonical →
        array.canonical = imitation.canonical) ∧
      array.fingerprint ≠ imitation.fingerprint := by
  intro array imitation
  have apart : Digest.ofText array.canonical ≠ Digest.ofText imitation.canonical := by
    decide +kernel
  have holds : Digest.ofText array.canonical = Digest.ofText imitation.canonical →
      array.canonical = imitation.canonical := fun same => absurd same apart
  refine ⟨holds, fun same => ?_⟩
  exact Value.noConfusion (((identified_by_canonical_text array imitation).2 holds).mp same)

end Value

end BoundSql
