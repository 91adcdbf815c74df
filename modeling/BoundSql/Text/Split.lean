/-!
# Cutting a text at a separator

Searching is on the list of characters, so a cut never falls inside one. The
first occurrence wins, and occurrences do not overlap.
-/

namespace BoundSql.Text

/-- The ASCII capital letters become small ones; every other character stays. Letters of other
scripts are left alone, also those with a small form. -/
def lowerAscii (c : Char) : Char :=
  if 'A' ≤ c ∧ c ≤ 'Z' then Char.ofNat (c.toNat + 32) else c

/-- The text before and after the first place where `separator` stands, compared after `fold`
has been applied to the characters of the text. Both parts are given as they were written, not
folded, and the separator itself is dropped. An empty separator is found at once. -/
def cutOn (fold : Char → Char) (separator : List Char) : List Char → Option (List Char × List Char)
  | [] => if separator.isEmpty then some ([], []) else none
  | c :: rest =>
    if separator.isPrefixOf ((c :: rest).map fold) then
      some ([], (c :: rest).drop separator.length)
    else
      (cutOn fold separator rest).map fun (before, after) => (c :: before, after)

/-- `cutOn` without folding. -/
def cut (separator : List Char) (text : List Char) : Option (List Char × List Char) :=
  cutOn id separator text

/-- A cut takes away the separator and nothing else. This is what makes splitting end, since the
part that is left to split is shorter. -/
theorem length_of_cutOn {fold : Char → Char} {separator text before after : List Char}
    (found : cutOn fold separator text = some (before, after)) :
    before.length + separator.length + after.length = text.length := by
  induction text generalizing before after with
  | nil =>
    unfold cutOn at found
    split at found
    · rename_i empty
      cases found
      simp [List.isEmpty_iff.mp empty]
    · cases found
  | cons c rest inductionHypothesis =>
    unfold cutOn at found
    split at found
    · rename_i here
      cases found
      have fits : separator.length ≤ (c :: rest).length := by
        have leading := List.isPrefixOf_iff_prefix.mp here
        simpa using leading.length_le
      simp only [List.length_nil, List.length_drop]
      omega
    · cases step : cutOn fold separator rest with
      | none => simp [step] at found
      | some pair =>
        obtain ⟨head, tail⟩ := pair
        simp only [step, Option.map_some, Option.some.injEq, Prod.mk.injEq] at found
        have := inductionHypothesis step
        obtain ⟨rfl, rfl⟩ := found
        simp only [List.length_cons]
        omega

/-- The pieces between the occurrences of a separator; there is always at least one piece. An
    empty separator cuts nothing. -/
def splitAll (separator : List Char) (text : List Char) : List (List Char) :=
  if _empty : separator = [] then
    [text]
  else
    match _found : cut separator text with
    | none => [text]
    | some (before, after) => before :: splitAll separator after
termination_by text.length
decreasing_by
  have := length_of_cutOn _found
  have : separator.length ≠ 0 := by simpa using _empty
  omega

end BoundSql.Text
