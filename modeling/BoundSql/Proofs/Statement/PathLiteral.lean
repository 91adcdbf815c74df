import BoundSql.Proofs.Text.ByteSearch
import BoundSql.Statement.Identifier
import BoundSql.Text.Digits

/-!
# The literal of a path

A reader of a statement takes a literal to end at the first quote that no backslash
escapes. The steps of a path may have quotes and backslashes anywhere, also at
their ends; since each of them is escaped on its own, the reader comes to the quote
that was written behind the path and has the path as it was, whatever follows.
-/

namespace BoundSql.Identifier

open Text

/-! ## Reading a literal -/

/-- What a character behind a backslash stands for: some letters for a control
character, any other character for itself. -/
def escapedChar : Char → Char
  | 'a' => '\x07'
  | 'b' => '\x08'
  | 'f' => '\x0c'
  | 'n' => '\n'
  | 'r' => '\r'
  | 't' => '\t'
  | 'v' => '\x0b'
  | '0' => '\x00'
  | c => c

/-- The ASCII character with a number in hexadecimal; a number beyond ASCII stands for none
here. -/
def asciiOfHex? (digits : List Char) : Option Char :=
  ((naturalOf? 16 digits).filter (· < 128)).map Char.ofNat

/-- The text of a literal from behind its opening quote, decoded, and what stands
behind its closing quote, which is the first that is not escaped. -/
def readLiteral : List Char → Option (List Char × List Char)
  | [] => none
  | '\'' :: behind => some ([], behind)
  | '\\' :: 'x' :: high :: low :: rest =>
    (asciiOfHex? [high, low]).bind fun c =>
      (readLiteral rest).map fun (text, behind) => (c :: text, behind)
  | '\\' :: 'x' :: _ => none
  | '\\' :: c :: rest => (readLiteral rest).map fun (text, behind) => (escapedChar c :: text, behind)
  | c :: rest => (readLiteral rest).map fun (text, behind) => (c :: text, behind)

/-- One written character is read as the character that was meant. -/
theorem readLiteral_escapeChar_append (c : Char) (rest : List Char) :
    readLiteral (escapeChar c ++ rest) =
      (readLiteral rest).map fun (text, behind) => (c :: text, behind) := by
  unfold escapeChar
  by_cases backslash : c = '\\'
  · subst backslash
    rfl
  · by_cases quote : c = '\''
    · subst quote
      rfl
    · rw [if_neg backslash, if_neg quote, List.singleton_append, readLiteral]
      · exact quote
      all_goals simp [backslash]

/-- An escaped text is read back up to the quote behind it. Induct over the text; what stands
behind the quote is arbitrary. -/
theorem readLiteral_escape (text behind : List Char) :
    readLiteral (escape text ++ '\'' :: behind) = some (text, behind) := by
  induction text with
  | nil => rfl
  | cons c rest inductionHypothesis =>
    rw [escape, List.flatMap_cons, List.append_assoc, readLiteral_escapeChar_append]
    change (readLiteral (escape rest ++ '\'' :: behind)).map _ = _
    rw [inductionHypothesis]
    rfl

/-! ## The text of a path -/

/-- There is no blank in an arrow. -/
theorem isBlank_of_mem_arrow : ∀ c ∈ arrow, isBlank c = false :=
  List.forall_mem_cons.mpr ⟨by decide, List.forall_mem_singleton.mpr (by decide)⟩

/-- Escaping can be done in two passes, of which the one that doubles backslashes
comes first. -/
theorem escape_eq_passes (text : List Char) :
    escape text = (text.flatMap fun c => if c = '\\' then ['\\', '\\'] else [c]).flatMap
      fun c => if c = '\'' then ['\\', '\''] else [c] := by
  rw [List.flatMap_assoc]
  refine congrArg (text.flatMap ·) (funext fun c => ?_)
  unfold escapeChar
  by_cases backslash : c = '\\' <;> simp [backslash]

/-- Texts around a separator that needs no escape are escaped one by one. -/
theorem escape_intercalate (texts : List (List Char)) :
    escape (List.intercalate ['.'] texts) = List.intercalate ['.'] (texts.map escape) := by
  induction texts with
  | nil => rfl
  | cons text rest inductionHypothesis =>
    cases rest with
    | nil => simp
    | cons next others =>
      have behind : (next :: others).map escape ≠ [] := List.cons_ne_nil _ _
      rw [List.map_cons, List.intercalate_cons_of_ne_nil (List.cons_ne_nil next others),
        List.intercalate_cons_of_ne_nil behind, ← inductionHypothesis]
      simp [escape, escapeChar]

/-- The text of a path is its trimmed steps between points, escaped. -/
theorem pathText_eq (path : List Char) :
    pathText path = escape (List.intercalate ['.'] ((splitAll arrow path).map trimChars)) := by
  rw [escape_intercalate, List.map_map]
  rfl

/-- A name with arrows is rendered by what stands between them. -/
theorem wrapPlain_of_pieces {name field : List Char} {steps : List (List Char)}
    (pieces : splitAll arrow name = field :: steps) (stepped : steps ≠ []) :
    wrapPlain name = "simpleJSONExtractString(".toList ++ (trimChars field ++ (", '".toList ++
      (escape (List.intercalate ['.'] (steps.map trimChars)) ++ "')".toList))) := by
  cases found : cut arrow name with
  | none =>
    rw [splitAll_of_uncut found] at pieces
    exact absurd (List.cons.inj pieces).2.symm stepped
  | some pair =>
    obtain ⟨before, path⟩ := pair
    rw [splitAll_of_cut (by decide) found] at pieces
    obtain ⟨rfl, rfl⟩ := List.cons.inj pieces
    rw [wrapPlain, found]
    simp [pathText_eq]

/-! ## The parts of a name -/

/-- A name is an expression and, behind the first alias word if there is one, a label. The word
may be in capitals, and the expression and the label are not trimmed yet. -/
inductive Parts (name : List Char) : List Char → Option (List Char) → Prop
  | plain (uncut : Uncut lowerAscii [' ', 'a', 's', ' '] name) : Parts name name none
  | labelled {expression label : List Char}
      (found : CutAt lowerAscii [' ', 'a', 's', ' '] name expression label) :
      Parts name expression (some label)

/-- A label as it is rendered, trimmed and otherwise as it is. -/
def labelText : Option (List Char) → List Char
  | none => []
  | some label => " as ".toList ++ trimChars label

/-- A name is rendered part by part, and slicing it at a distance in bytes gives the parts. -/
theorem exists_parts (name : String) : ∃ expression label?,
    Parts name.toList expression label? ∧
      sliceAround? " as " name = some (label?.map (expression, ·)) ∧
      wrapChars name.toList = wrapPlain (trimChars expression) ++ labelText label? := by
  have sliced : sliceAround? " as " name = some (cutOn lowerAscii aliasWord name.toList) :=
    sliceAround?_eq (by decide) (by simp) name
  rw [sliced]
  unfold wrapChars
  cases found : cutOn lowerAscii aliasWord name.toList with
  | none =>
    exact ⟨_, none, .plain (uncut_of_cutOn found), rfl, (List.append_nil _).symm⟩
  | some pair =>
    exact ⟨pair.1, some pair.2, .labelled (cutAt_of_cutOn found), rfl, List.append_assoc _ _ _⟩

/-- A column name falls into an expression and perhaps a label, also when it is
sliced at a distance in bytes, which never ends inside a character. An expression
with arrows is rendered as the extraction of a path from the field in front of the
first of them, and the label follows. Whoever reads the literal comes to its end
where it was written, with all steps behind the field, trimmed and between points. -/
theorem path_stays_in_literal (name : String) : ∃ expression label?,
    Parts name.toList expression label? ∧
      sliceAround? " as " name = some (label?.map (expression, ·)) ∧
      (['-', '>'] <:+: expression → ∃ field steps literal,
        steps ≠ [] ∧ List.intercalate ['-', '>'] (field :: steps) = expression ∧
          (∀ piece ∈ field :: steps, ¬ ['-', '>'] <:+: piece) ∧
          (wrap (.name name)).toList = "simpleJSONExtractString(".toList ++ (trimChars field ++
            (", '".toList ++ (literal ++ ("')".toList ++ labelText label?)))) ∧
          ∀ behind, readLiteral (literal ++ '\'' :: behind) =
            some (List.intercalate ['.'] (steps.map trimChars), behind)) := by
  obtain ⟨expression, label?, parts, sliced, rendered⟩ := exists_parts name
  refine ⟨expression, label?, parts, sliced, fun arrows => ?_⟩
  have separates : arrow ≠ [] := by decide
  obtain ⟨field, steps, pieces, stepped⟩ := exists_pieces_of_infix separates arrows
  have trimmed := map_trimChars_splitAll_trimChars separates isBlank_of_mem_arrow expression
  rw [pieces, List.map_cons] at trimmed
  obtain ⟨first, others, piecesTrimmed, sameField, sameSteps⟩ := List.map_eq_cons_iff.mp trimmed
  have othersShown : others ≠ [] := by
    rintro rfl
    exact stepped (List.map_eq_nil_iff.mp sameSteps.symm)
  refine ⟨field, steps, escape (List.intercalate ['.'] (steps.map trimChars)), stepped, ?_, ?_, ?_, ?_⟩
  · rw [← pieces]
    exact intercalate_splitAll arrow expression
  · rw [← pieces]
    exact not_infix_of_mem_splitAll separates
  · rw [wrap, wrapName, String.toList_ofList, rendered, wrapPlain_of_pieces piecesTrimmed othersShown,
      sameField, sameSteps]
    simp only [List.append_assoc]
  · exact fun behind => readLiteral_escape _ behind

example : wrap (.name "é -> it's\\ ->b As x") =
    "simpleJSONExtractString(é, 'it\\'s\\\\.b') as x" := by
  decide +kernel

end BoundSql.Identifier
