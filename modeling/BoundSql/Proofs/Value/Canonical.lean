import BoundSql.Proofs.Calendar.Text
import BoundSql.Text.Bytes
import BoundSql.Value.Fingerprint

/-!
# Values are known by their canonical texts

No two values have one canonical text. The kind in front of the first colon
says how the rest is to be read; numerals, dates and times end by themselves, a
text is as many bytes long as the numeral before it says, and an array holds as
many items as its numeral says, each read in the same way up to its semicolon.
What a text contains is never looked at, so no content can imitate structure.

A fingerprint is the digest of the canonical text and nothing of the digest is
lost in it. That equal digests come from equal texts is no theorem: it is a
hypothesis wherever it is needed, and then only about the texts at hand.
-/

namespace BoundSql

open Text

/-- The bytes that a text counts are those of its characters. -/
theorem Text.utf8ByteSize_eq_byteCount (text : String) :
    text.utf8ByteSize = byteCount text.toList := by
  have counted (chars : List Char) : (String.ofList chars).utf8ByteSize = byteCount chars := by
    induction chars with
    | nil => rfl
    | cons c rest inductionHypothesis =>
      rw [String.ofList_cons, String.utf8ByteSize_append, inductionHypothesis,
        String.utf8ByteSize_singleton, byteCount]
  rw [← counted text.toList, String.ofList_toList]

/-- Behind its length in bytes a text needs no end mark: equal lengths cut equal
texts at the same place. -/
theorem Text.eq_of_byteCount {first second rest other : List Char}
    (length : byteCount first = byteCount second) (same : first ++ rest = second ++ other) :
    first = second ∧ rest = other := by
  have cut := takeBytes?_byteCount_append first rest
  rw [same, length, takeBytes?_byteCount_append second other] at cut
  have sameText : first = second := (Option.some.inj cut).symm
  subst sameText
  exact ⟨rfl, List.append_cancel_left same⟩

namespace Value

/-- What a canonical text holds behind the kind and its colon. It is the same text in other
parts, so that each part can be read by itself. -/
def content : Value → List Char
  | .null => []
  | .bool value => (toString value).toList
  | .int value => (toString value.toInt).toList
  | .uint value => Nat.toDigits 10 value.toNat
  | .float value => padLeft '0' 16 (Nat.toDigits 16 value.bits.toNat)
  | .string value => Nat.toDigits 10 value.utf8ByteSize ++ ':' :: value.toList
  | .date value => value.text.toList
  | .dateTime value => value.text.toList
  | .array items =>
    Nat.toDigits 10 items.length ++ '[' :: ((canonicalItems items).toList ++ [']'])

/-- A canonical text is the kind, a colon and the content. -/
theorem canonical_eq (value : Value) :
    value.canonical.toList = value.kindName.toList ++ ':' :: value.content := by
  cases value <;> simp [canonical, kindName, content, hexadecimal]

/-- The name of a kind holds no colon, so the first colon of a canonical text is the one behind
the kind. -/
theorem colon_notMem_kindName (value : Value) :
    ∀ c ∈ value.kindName.toList, (c != ':') = true := by
  cases value <;> simp [kindName]

/-- Equal canonical texts are of one kind and agree behind it, whatever stands behind the texts
themselves. -/
theorem content_eq_of_canonical {first second : Value} {rest other : List Char}
    (same : first.canonical.toList ++ rest = second.canonical.toList ++ other) :
    first.kindName = second.kindName ∧ first.content ++ rest = second.content ++ other := by
  rw [canonical_eq, canonical_eq, List.append_assoc, List.append_assoc] at same
  obtain ⟨kind, -, content⟩ := eq_of_delimited (· != ':')
    (colon_notMem_kindName first) (colon_notMem_kindName second) (by decide) (by decide) same
  exact ⟨String.toList_inj.mp kind, content⟩

/-- Truth values end at a semicolon. -/
theorem endsAt_bool : EndsAt ';' fun value : Bool => (toString value).toList := by
  intro first second rest other same
  cases first <;> cases second
  · exact ⟨rfl, (List.cons.inj (List.append_cancel_left same)).2⟩
  · exact absurd (List.cons.inj same).1 (by decide)
  · exact absurd (List.cons.inj same).1 (by decide)
  · exact ⟨rfl, (List.cons.inj (List.append_cancel_left same)).2⟩

/-- A text ends where its length says. What it contains is not looked at, so a semicolon or a
bracket in it ends nothing. -/
theorem eq_of_stringContent {first second : String} {rest other : List Char}
    (same : content (.string first) ++ rest = content (.string second) ++ other) :
    first = second ∧ rest = other := by
  simp only [content, List.append_assoc, List.cons_append] at same
  obtain ⟨length, sameText⟩ :=
    endsAt_toDigits (show 1 < 10 by decide) (by decide) (show isNumeralChar ':' = false by decide)
      _ _ _ _ same
  rw [utf8ByteSize_eq_byteCount, utf8ByteSize_eq_byteCount] at length
  obtain ⟨characters, sameRest⟩ := eq_of_byteCount length sameText
  exact ⟨String.toList_inj.mp characters, sameRest⟩

mutual

/-- A canonical text with a semicolon behind it names its value, whatever follows.

The content is read by its kind. An array's items are values of smaller depth,
so the statement about them is used for all of them, each with its semicolon. -/
theorem eq_of_canonical_append (first second : Value) (rest other : List Char)
    (same : first.canonical.toList ++ ';' :: rest = second.canonical.toList ++ ';' :: other) :
    first = second ∧ rest = other := by
  obtain ⟨kind, sameContent⟩ := content_eq_of_canonical same
  cases first with
  | null =>
    cases second <;> simp [kindName] at kind
    exact ⟨rfl, (List.cons.inj sameContent).2⟩
  | bool value =>
    cases second <;> simp [kindName] at kind
    obtain ⟨rfl, sameRest⟩ := endsAt_bool _ _ _ _ sameContent
    exact ⟨rfl, sameRest⟩
  | int value =>
    cases second <;> simp [kindName] at kind
    obtain ⟨sameNumber, sameRest⟩ := endsAt_int (by decide) _ _ _ _ sameContent
    exact ⟨congrArg Value.int (Int64.toInt_inj.mp sameNumber), sameRest⟩
  | uint value =>
    cases second <;> simp [kindName] at kind
    obtain ⟨sameNumber, sameRest⟩ :=
      endsAt_toDigits (by decide) (by decide) (by decide) _ _ _ _ sameContent
    exact ⟨congrArg Value.uint (UInt64.toNat_inj.mp sameNumber), sameRest⟩
  | float value =>
    cases second with
    | float bits =>
      obtain ⟨sameBits, sameRest⟩ :=
        endsAt_padLeft_toDigits (by decide) (by decide) 16 (by decide) _ _ _ _ sameContent
      cases value
      cases bits
      exact ⟨congrArg (fun word => Value.float ⟨word⟩) (UInt64.toNat_inj.mp sameBits), sameRest⟩
    | _ => simp [kindName] at kind
  | string value =>
    cases second <;> simp [kindName] at kind
    obtain ⟨rfl, sameRest⟩ := eq_of_stringContent sameContent
    exact ⟨rfl, (List.cons.inj sameRest).2⟩
  | date value =>
    cases second <;> simp [kindName] at kind
    obtain ⟨rfl, sameRest⟩ := Calendar.endsAt_date (by decide) _ _ _ _ sameContent
    exact ⟨rfl, sameRest⟩
  | dateTime value =>
    cases second <;> simp [kindName] at kind
    obtain ⟨rfl, sameRest⟩ := Calendar.endsAt_dateTime (by decide) (by decide) _ _ _ _ sameContent
    exact ⟨rfl, sameRest⟩
  | array items =>
    cases second with
    | array others =>
      simp only [content, List.append_assoc, List.cons_append, List.nil_append] at sameContent
      obtain ⟨count, sameItems⟩ :=
        endsAt_toDigits (by decide) (by decide) (show isNumeralChar '[' = false by decide)
          _ _ _ _ sameContent
      obtain ⟨rfl, sameRest⟩ := eq_of_canonicalItems_append items others _ _ count sameItems
      exact ⟨rfl, (List.cons.inj (List.cons.inj sameRest).2).2⟩
    | _ => simp [kindName] at kind

/-- As many items as are known to stand there are read one behind the other. Without the number
a bracket in a text could be taken for the end. -/
theorem eq_of_canonicalItems_append (items others : List Value) (rest other : List Char)
    (count : items.length = others.length)
    (same : (canonicalItems items).toList ++ rest = (canonicalItems others).toList ++ other) :
    items = others ∧ rest = other := by
  cases items with
  | nil =>
    cases others with
    | nil => exact ⟨rfl, by simpa [canonicalItems] using same⟩
    | cons value remaining => simp at count
  | cons item behind =>
    cases others with
    | nil => simp at count
    | cons value remaining =>
      have split : item.canonical.toList ++ ';' :: ((canonicalItems behind).toList ++ rest) =
          value.canonical.toList ++ ';' :: ((canonicalItems remaining).toList ++ other) := by
        simpa [canonicalItems] using same
      obtain ⟨rfl, sameBehind⟩ := eq_of_canonical_append item value _ _ split
      obtain ⟨rfl, sameRest⟩ :=
        eq_of_canonicalItems_append behind remaining rest other (Nat.succ.inj count) sameBehind
      exact ⟨rfl, sameRest⟩

end

/-- Different values have different canonical texts. Nothing is assumed: dates, times and arrays
of any depth are included. -/
theorem canonical_injective {first second : Value} (same : first.canonical = second.canonical) :
    first = second :=
  (eq_of_canonical_append first second [] [] (by rw [same])).1

end Value

end BoundSql
