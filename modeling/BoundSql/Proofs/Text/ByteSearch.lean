import BoundSql.Proofs.Text.ByteOrder
import BoundSql.Proofs.Text.Pieces

/-!
# Searching in bytes

A word may be searched in the bytes of a text, with the capital letters among them
made small, and the text then be cut at the distance that was found. For a word in
ASCII this is the cut between characters: lowering a letter keeps its width, and
the bytes of every other character are outside ASCII, so that the word can neither
start inside a character nor end in one.
-/

namespace BoundSql.Text

/-- The bytes of ASCII capital letters become those of small ones; every other byte stays. -/
def lowerByte (byte : UInt8) : UInt8 :=
  if 65 ≤ byte ∧ byte ≤ 90 then byte + 32 else byte

/-- The distance at which a row of bytes stands in another for the first time. -/
def findBytes? (word : List UInt8) : List UInt8 → Option Nat
  | [] => if word.isEmpty then some 0 else none
  | byte :: rest =>
    if word.isPrefixOf (byte :: rest) then some 0 else (findBytes? word rest).map (· + 1)

/-- The text before and after a word, searched in bytes without regard to capital letters. The
distances are refused where they fall inside a character. -/
def sliceAround? (word text : String) : Option (Option (List Char × List Char)) :=
  match findBytes? (bytes word) ((bytes text).map lowerByte) with
  | none => some none
  | some place => do
    let before ← takeBytes? place text.toList
    let after ← dropBytes? (place + byteCount word.toList) text.toList
    return some (before, after)

/-! ## Characters in ASCII and others -/

/-- A character in ASCII is one byte, its number. -/
theorem utf8EncodeChar_ascii {c : Char} (ascii : c.toNat < 128) :
    String.utf8EncodeChar c = [UInt8.ofNat c.toNat] :=
  if_pos (Nat.le_of_lt_succ ascii)

/-- The bytes of any other character are outside ASCII. -/
theorem le_of_mem_utf8EncodeChar {c : Char} (beyond : 128 ≤ c.toNat) :
    ∀ byte ∈ String.utf8EncodeChar c, 128 ≤ byte := by
  have high : ∀ offset value : Nat, 128 ≤ offset → value + offset < 256 →
      128 ≤ UInt8.ofNat (value + offset) := by
    intro offset value large fits
    rw [UInt8.le_iff_toNat_le, UInt8.toNat_ofNat', Nat.mod_eq_of_lt fits]
    exact Nat.le_add_left_of_le large
  change 128 ≤ c.val.toNat at beyond
  intro byte member
  unfold String.utf8EncodeChar at member
  rw [if_neg (by omega)] at member
  repeat' split at member
  all_goals
    simp only [List.mem_cons, List.not_mem_nil, or_false] at member
    rcases member with rfl | rfl | rfl | rfl <;> exact high _ _ (by omega) (by omega)

/-- A character outside ASCII is no capital letter, whatever it is in its own script, so it
stays. -/
theorem lowerAscii_of_beyond {c : Char} (beyond : 128 ≤ c.toNat) : lowerAscii c = c := by
  refine if_neg fun ⟨_, upper⟩ => ?_
  have below : c.toNat ≤ 'Z'.toNat := upper
  have : 'Z'.toNat = 90 := rfl
  omega

/-- Lowering the bytes of a character lowers the character. -/
theorem map_lowerByte_utf8EncodeChar (c : Char) :
    (String.utf8EncodeChar c).map lowerByte = String.utf8EncodeChar (lowerAscii c) := by
  rcases Nat.lt_or_ge c.toNat 128 with ascii | beyond
  · have every : ∀ number < 128, (String.utf8EncodeChar (Char.ofNat number)).map lowerByte =
        String.utf8EncodeChar (lowerAscii (Char.ofNat number)) := by decide
    simpa only [Char.ofNat_toNat] using every c.toNat ascii
  · rw [lowerAscii_of_beyond beyond]
    refine (List.map_congr_left fun byte member => ?_).trans (List.map_id _)
    refine if_neg fun ⟨_, upper⟩ => ?_
    exact absurd (UInt8.le_trans (le_of_mem_utf8EncodeChar beyond byte member) upper) (by decide)

/-- Lowering a character keeps its width, so distances in the lowered text are distances in the
text. -/
theorem utf8Size_lowerAscii (c : Char) : (lowerAscii c).utf8Size = c.utf8Size := by
  rw [← String.length_utf8EncodeChar, ← map_lowerByte_utf8EncodeChar, List.length_map,
    String.length_utf8EncodeChar]

/-- Spellings of one word have the same width. -/
theorem byteCount_map_lowerAscii (text : List Char) :
    byteCount (text.map lowerAscii) = byteCount text := by
  induction text with
  | nil => rfl
  | cons c rest inductionHypothesis =>
    rw [List.map_cons, byteCount, byteCount, utf8Size_lowerAscii, inductionHypothesis]

/-! ## A word in ASCII among characters -/

section Word

variable {word : List Char}

/-- A word in ASCII does not start with a byte of any other character. It must have a character
for this, since no word starts everywhere. -/
theorem not_prefix_of_le (separates : word ≠ []) (ascii : ∀ c ∈ word, c.toNat < 128) {byte : UInt8}
    (high : 128 ≤ byte) (behind : List UInt8) :
    ¬ word.flatMap String.utf8EncodeChar <+: byte :: behind := by
  obtain ⟨c, others, rfl⟩ := List.exists_cons_of_ne_nil separates
  have small := ascii c List.mem_cons_self
  rw [List.flatMap_cons, utf8EncodeChar_ascii small, List.singleton_append, List.cons_prefix_cons]
  rintro ⟨rfl, -⟩
  rw [UInt8.le_iff_toNat_le, UInt8.toNat_ofNat', Nat.mod_eq_of_lt (by omega)] at high
  exact absurd small (Nat.not_lt.mpr high)

/-- A word in ASCII stands in front of the bytes of a text where it stands in front of its
characters. Induct over the word, one byte for each of its characters. -/
theorem prefix_flatMap_iff (ascii : ∀ c ∈ word, c.toNat < 128) (text : List Char) :
    word.flatMap String.utf8EncodeChar <+: text.flatMap String.utf8EncodeChar ↔ word <+: text := by
  induction word generalizing text with
  | nil => simp
  | cons c others inductionHypothesis =>
    obtain ⟨small, smallOthers⟩ := List.forall_mem_cons.mp ascii
    cases text with
    | nil => simp [utf8EncodeChar_ascii small]
    | cons d rest =>
      rw [List.cons_prefix_cons]
      rcases Nat.lt_or_ge d.toNat 128 with alsoSmall | beyond
      · rw [List.flatMap_cons, List.flatMap_cons, utf8EncodeChar_ascii small,
          utf8EncodeChar_ascii alsoSmall, List.singleton_append, List.singleton_append,
          List.cons_prefix_cons, inductionHypothesis smallOthers, ← UInt8.toNat_inj,
          UInt8.toNat_ofNat', UInt8.toNat_ofNat', Nat.mod_eq_of_lt (by omega),
          Nat.mod_eq_of_lt (by omega), Char.toNat_inj]
      · have differs : c ≠ d := by
          rintro rfl
          omega
        refine iff_of_false ?_ fun same => differs same.1
        have shown : String.utf8EncodeChar d ≠ [] := String.utf8EncodeChar_ne_nil
        have high := le_of_mem_utf8EncodeChar beyond
        rw [show (d :: rest).flatMap String.utf8EncodeChar =
          String.utf8EncodeChar d ++ rest.flatMap String.utf8EncodeChar from List.flatMap_cons]
        obtain ⟨byte, behind, encoded⟩ := List.exists_cons_of_ne_nil shown
        rw [encoded] at high ⊢
        exact not_prefix_of_le (List.cons_ne_nil c others) ascii (high byte List.mem_cons_self) _

/-- A row that starts with the word has it at no distance. -/
theorem findBytes?_of_prefix {sought row : List UInt8} (starts : sought <+: row) :
    findBytes? sought row = some 0 := by
  cases row with
  | nil => rw [List.prefix_nil.mp starts, findBytes?, if_pos List.isEmpty_nil]
  | cons byte rest => rw [findBytes?, if_pos (List.isPrefixOf_iff_prefix.mpr starts)]

/-- A row is searched behind a part of it in which the word starts nowhere, not even to end
behind that part. -/
theorem findBytes?_append {sought row rest : List UInt8}
    (elsewhere : ∀ front back, row = front ++ back → back ≠ [] → ¬ sought <+: back ++ rest) :
    findBytes? sought (row ++ rest) = (findBytes? sought rest).map (· + row.length) := by
  induction row with
  | nil => simp
  | cons byte others inductionHypothesis =>
    have behind := inductionHypothesis fun front back parts =>
      elsewhere (byte :: front) back (congrArg (byte :: ·) parts)
    have here : ¬ sought.isPrefixOf (byte :: (others ++ rest)) = true := fun starts =>
      elsewhere [] (byte :: others) rfl (List.cons_ne_nil _ _) (List.isPrefixOf_iff_prefix.mp starts)
    rw [List.cons_append, findBytes?, if_neg here, behind, Option.map_map]
    rfl

/-- A word in ASCII that does not stand in front of a character is searched behind it. -/
theorem findBytes?_utf8EncodeChar_append (separates : word ≠ []) (ascii : ∀ c ∈ word, c.toNat < 128)
    {d : Char} {rest : List Char} (elsewhere : ¬ word <+: d :: rest) :
    findBytes? (word.flatMap String.utf8EncodeChar)
        (String.utf8EncodeChar d ++ rest.flatMap String.utf8EncodeChar) =
      (findBytes? (word.flatMap String.utf8EncodeChar) (rest.flatMap String.utf8EncodeChar)).map
        (· + d.utf8Size) := by
  rw [← String.length_utf8EncodeChar]
  refine findBytes?_append fun front back parts shown => ?_
  rcases Nat.lt_or_ge d.toNat 128 with small | beyond
  · have whole : back = String.utf8EncodeChar d := by
      rw [utf8EncodeChar_ascii small] at parts ⊢
      cases front with
      | nil => exact parts.symm
      | cons first others =>
        obtain ⟨-, rfl⟩ := List.append_eq_nil_iff.mp (List.cons.inj parts).2.symm
        exact absurd rfl shown
    rw [whole, ← List.flatMap_cons, prefix_flatMap_iff ascii]
    exact elsewhere
  · obtain ⟨byte, behind, rfl⟩ := List.exists_cons_of_ne_nil shown
    have high := le_of_mem_utf8EncodeChar beyond byte (by rw [parts]; simp)
    exact not_prefix_of_le separates ascii high _

/-- Searched in lowered bytes, a word in ASCII is found where the cut between characters is
made. Induct over the text: the word starts at a character, or nowhere among its bytes. -/
theorem findBytes?_bytes (separates : word ≠ []) (ascii : ∀ c ∈ word, c.toNat < 128) (text : List Char) :
    findBytes? (word.flatMap String.utf8EncodeChar)
        ((text.flatMap String.utf8EncodeChar).map lowerByte) =
      (cutOn lowerAscii word text).map fun (before, _) => byteCount before := by
  have lowered : (text.flatMap String.utf8EncodeChar).map lowerByte =
      (text.map lowerAscii).flatMap String.utf8EncodeChar := by
    rw [List.map_flatMap, List.flatMap_map]
    simp only [map_lowerByte_utf8EncodeChar]
  rw [lowered]
  clear lowered
  induction text with
  | nil =>
    obtain ⟨letter, letters, rfl⟩ := List.exists_cons_of_ne_nil separates
    rw [List.flatMap_cons, utf8EncodeChar_ascii (ascii letter List.mem_cons_self)]
    rfl
  | cons c rest inductionHypothesis =>
    rw [cutOn]
    by_cases here : word <+: (c :: rest).map lowerAscii
    · rw [if_pos (List.isPrefixOf_iff_prefix.mpr here),
        findBytes?_of_prefix ((prefix_flatMap_iff ascii _).mpr here)]
      rfl
    · rw [if_neg fun starts => here (List.isPrefixOf_iff_prefix.mp starts), List.map_cons,
        List.flatMap_cons, findBytes?_utf8EncodeChar_append separates ascii here, inductionHypothesis,
        utf8Size_lowerAscii, Option.map_map, Option.map_map]
      congr 1
      funext pair
      exact Nat.add_comm _ _

end Word

/-- Slicing at a word in ASCII is never refused, and cuts between characters. -/
theorem sliceAround?_eq {word : String} (separates : word.toList ≠ [])
    (ascii : ∀ c ∈ word.toList, c.toNat < 128) (text : String) :
    sliceAround? word text = some (cutOn lowerAscii word.toList text.toList) := by
  rw [sliceAround?, bytes_eq, bytes_eq, findBytes?_bytes separates ascii]
  cases found : cutOn lowerAscii word.toList text.toList with
  | none => rfl
  | some pair =>
    obtain ⟨before, after⟩ := pair
    obtain ⟨spelled, folded, parts⟩ := (cutAt_of_cutOn found).parts
    have width : byteCount before + byteCount word.toList = byteCount (before ++ spelled) := by
      rw [byteCount_append, ← folded, byteCount_map_lowerAscii]
    have behind : dropBytes? (byteCount before + byteCount word.toList) text.toList = some after := by
      rw [width, parts, ← List.append_assoc, dropBytes?_byteCount_append]
    have inFront : takeBytes? (byteCount before) text.toList = some before := by
      rw [parts, takeBytes?_byteCount_append]
    rw [Option.map_some]
    simp only [inFront, behind]
    rfl

end BoundSql.Text
