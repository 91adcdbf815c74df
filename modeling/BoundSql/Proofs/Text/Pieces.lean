import BoundSql.Text.Blank
import BoundSql.Text.Split
import Mathlib.Data.List.TakeWhile

/-!
# The pieces of a text

A cut is made where the separator stands for the first time, and a text that is
not cut has no such place. So the pieces of a text are what stands between
separators: put together with separators they are the text again, and no separator
is left in any of them. Blanks around the text go to its first and last piece,
where trimming removes them, since no separator has blanks in it.
-/

namespace BoundSql.Text

variable {fold : Char → Char} {separator text before after : List Char}

/-! ## Cuts -/

/-- A text is cut into what stands before and after a separator, some spelling of
which folds to it, and the separator stands nowhere further to the front. -/
structure CutAt (fold : Char → Char) (separator text before after : List Char) : Prop where
  parts : ∃ spelled, spelled.map fold = separator ∧ text = before ++ (spelled ++ after)
  first : ∀ front spelled back, spelled.map fold = separator →
    text = front ++ (spelled ++ back) → before.length ≤ front.length

/-- A text in which the separator stands nowhere, in no spelling. An empty separator stands
everywhere, so no text is without it. -/
def Uncut (fold : Char → Char) (separator text : List Char) : Prop :=
  ∀ front spelled back, spelled.map fold = separator → text ≠ front ++ (spelled ++ back)

/-- What a text starts with, once folded, is spelled at its start. -/
theorem prefix_map_iff :
    separator <+: text.map fold ↔
      ∃ spelled back, spelled.map fold = separator ∧ text = spelled ++ back := by
  constructor
  · rintro ⟨behind, same⟩
    obtain ⟨spelled, back, rfl, folded, -⟩ := List.map_eq_append_iff.mp same.symm
    exact ⟨spelled, back, folded, rfl⟩
  · rintro ⟨spelled, back, rfl, rfl⟩
    rw [List.map_append]
    exact List.prefix_append _ _

/-- A separator that does not stand at the start of a text stands further back. -/
theorem exists_cons_of_not_prefix {c : Char} {rest front spelled back : List Char}
    (elsewhere : ¬ separator <+: (c :: rest).map fold) (folded : spelled.map fold = separator)
    (parts : c :: rest = front ++ (spelled ++ back)) :
    ∃ further, front = c :: further ∧ rest = further ++ (spelled ++ back) := by
  cases front with
  | nil => exact absurd (prefix_map_iff.mpr ⟨spelled, back, folded, parts⟩) elsewhere
  | cons d further =>
    obtain ⟨rfl, same⟩ := List.cons.inj parts
    exact ⟨further, rfl, same⟩

/-- Cutting finds the first place, or there is none. Induct over the text: the separator stands
at its start, or every place is one character further back. -/
theorem cutOn_finds (fold : Char → Char) (separator text : List Char) :
    match cutOn fold separator text with
    | none => Uncut fold separator text
    | some (before, after) => CutAt fold separator text before after := by
  induction text with
  | nil =>
    unfold cutOn
    by_cases empty : separator = []
    · subst empty
      exact ⟨⟨[], rfl, rfl⟩, fun _ _ _ _ _ => Nat.zero_le _⟩
    · rw [if_neg (by simpa [List.isEmpty_iff] using empty)]
      intro front spelled back folded parts
      obtain ⟨-, rfl, -⟩ : front = [] ∧ spelled = [] ∧ back = [] := by simpa using parts
      exact empty folded.symm
  | cons c rest inductionHypothesis =>
    rw [cutOn]
    by_cases here : separator <+: (c :: rest).map fold
    · rw [if_pos (List.isPrefixOf_iff_prefix.mpr here)]
      obtain ⟨spelled, back, rfl, parts⟩ := prefix_map_iff.mp here
      refine ⟨⟨spelled, rfl, ?_⟩, fun _ _ _ _ _ => Nat.zero_le _⟩
      rw [parts, List.length_map, List.drop_left, List.nil_append]
    · rw [if_neg fun starts => here (List.isPrefixOf_iff_prefix.mp starts)]
      cases found : cutOn fold separator rest with
      | none =>
        rw [found] at inductionHypothesis
        intro front spelled back folded parts
        obtain ⟨further, -, same⟩ := exists_cons_of_not_prefix here folded parts
        exact inductionHypothesis further spelled back folded same
      | some pair =>
        rw [found] at inductionHypothesis
        obtain ⟨⟨spelled, folded, parts⟩, first⟩ := inductionHypothesis
        refine ⟨⟨spelled, folded, congrArg (c :: ·) parts⟩, ?_⟩
        intro front other back folded parts
        obtain ⟨further, rfl, same⟩ := exists_cons_of_not_prefix here folded parts
        exact Nat.succ_le_succ (first further other back folded same)

/-- A text that is not cut has no separator in it. -/
theorem uncut_of_cutOn (missing : cutOn fold separator text = none) : Uncut fold separator text := by
  have finds := cutOn_finds fold separator text
  rwa [missing] at finds

/-- A text is cut at the first separator. -/
theorem cutAt_of_cutOn (found : cutOn fold separator text = some (before, after)) :
    CutAt fold separator text before after := by
  have finds := cutOn_finds fold separator text
  rwa [found] at finds

/-! ## Pieces -/

/-- A text without the separator is one piece, even if it is empty. -/
theorem splitAll_of_uncut (missing : cut separator text = none) :
    splitAll separator text = [text] := by
  rw [splitAll]
  split
  · rfl
  · split
    · rfl
    · rename_i found
      rw [missing] at found
      cases found

/-- What stands before the first separator is a piece, and what comes after has the others. -/
theorem splitAll_of_cut (separates : separator ≠ []) (found : cut separator text = some (before, after)) :
    splitAll separator text = before :: splitAll separator after := by
  rw [splitAll, dif_neg separates]
  split
  · rename_i missing
    rw [found] at missing
    cases missing
  · rename_i found'
    rw [found] at found'
    cases found'
    rfl

/-- A text has at least one piece, so the first of its pieces can always be taken. -/
theorem splitAll_ne_nil (separator text : List Char) : splitAll separator text ≠ [] := by
  fun_cases splitAll separator text <;> exact List.cons_ne_nil _ _

/-- The pieces put together with separators are the text. Nothing is lost in splitting, not even
empty pieces at the ends. -/
theorem intercalate_splitAll (separator text : List Char) :
    separator.intercalate (splitAll separator text) = text := by
  fun_induction splitAll separator text with
  | case1 => exact List.intercalate_singleton
  | case2 => exact List.intercalate_singleton
  | case3 text separates before after found inductionHypothesis =>
    obtain ⟨spelled, folded, parts⟩ := (cutAt_of_cutOn found).parts
    rw [List.map_id] at folded
    rw [List.intercalate_cons_of_ne_nil (splitAll_ne_nil separator after), inductionHypothesis,
      parts, folded, List.append_assoc]

/-- No separator is left in a piece. It must have a character, since an empty one stands in
every text. -/
theorem not_infix_of_mem_splitAll (separates : separator ≠ []) :
    ∀ piece ∈ splitAll separator text, ¬ separator <:+: piece := by
  fun_induction splitAll separator text with
  | case1 text empty => exact absurd empty separates
  | case2 text _ missing =>
    intro piece member
    obtain rfl := List.mem_singleton.mp member
    rintro ⟨front, back, inside⟩
    refine uncut_of_cutOn missing front separator back (List.map_id _) ?_
    rw [← inside, List.append_assoc]
  | case3 text _ before after found inductionHypothesis =>
    intro piece member
    rcases List.mem_cons.mp member with rfl | later
    · rintro ⟨front, back, rfl⟩
      obtain ⟨⟨spelled, -, parts⟩, first⟩ := cutAt_of_cutOn found
      have shorter := first front separator (back ++ (spelled ++ after)) (List.map_id _)
        (by rw [parts]; simp only [List.append_assoc])
      have length : 0 < separator.length := List.length_pos_iff.mpr separates
      simp only [List.length_append] at shorter
      omega
    · exact inductionHypothesis piece later

/-- A text with a separator in it has a piece behind the first one. -/
theorem exists_pieces_of_infix (separates : separator ≠ []) (inside : separator <:+: text) :
    ∃ first others, splitAll separator text = first :: others ∧ others ≠ [] := by
  cases found : cut separator text with
  | none =>
    obtain ⟨front, back, parts⟩ := inside
    refine absurd ?_ (uncut_of_cutOn found front separator back (List.map_id _))
    rw [← parts, List.append_assoc]
  | some pair => exact ⟨pair.1, _, splitAll_of_cut separates found, splitAll_ne_nil separator pair.2⟩

/-! ## Text around a text -/

section Surroundings

variable {more : List Char}

/-- Text that has nothing of a separator in it does not complete one that the text in front has
only begun. -/
theorem prefix_append_iff (apart : ∀ c ∈ more, c ∉ separator) :
    separator <+: text ++ more ↔ separator <+: text := by
  refine ⟨fun starts => ?_, fun starts => starts.trans (List.prefix_append text more)⟩
  rcases List.prefix_or_prefix_of_prefix starts (List.prefix_append text more) with
    inside | ⟨behind, rfl⟩
  · exact inside
  · have among : behind <+: more := (List.prefix_append_right_inj text).mp starts
    cases behind with
    | nil => simp
    | cons c rest =>
      have shared : c ∈ more := among.subset List.mem_cons_self
      exact absurd (List.mem_append_right text List.mem_cons_self) (apart c shared)

/-- Behind a text, what has nothing of the separator in it is behind the cut. -/
theorem cut_append (separates : separator ≠ []) (apart : ∀ c ∈ more, c ∉ separator) (text : List Char) :
    cut separator (text ++ more) =
      (cut separator text).map fun (before, after) => (before, after ++ more) := by
  unfold cut
  induction text with
  | nil =>
    have missing : cutOn id separator more = none := by
      cases found : cutOn id separator more with
      | none => rfl
      | some pair =>
        obtain ⟨c, member⟩ := List.exists_mem_of_ne_nil separator separates
        obtain ⟨spelled, folded, parts⟩ := (cutAt_of_cutOn found).parts
        rw [List.map_id] at folded
        refine absurd member (apart c ?_)
        rw [parts, folded]
        simp [member]
    rw [List.nil_append, missing, cutOn, if_neg (by simpa [List.isEmpty_iff] using separates)]
    rfl
  | cons c rest inductionHypothesis =>
    have same : separator.isPrefixOf (c :: (rest ++ more)) = separator.isPrefixOf (c :: rest) := by
      rw [Bool.eq_iff_iff, List.isPrefixOf_iff_prefix, List.isPrefixOf_iff_prefix,
        ← List.cons_append, prefix_append_iff apart]
    rw [List.cons_append, cutOn, cutOn, List.map_id, List.map_id, same]
    split
    · rename_i starts
      have fits := (List.isPrefixOf_iff_prefix.mp starts).length_le
      rw [Option.map_some, ← List.cons_append, List.drop_append_of_le_length fits]
    · rw [inductionHypothesis, Option.map_map, Option.map_map]
      rfl

/-- In front of a text, what has nothing of the separator in it is before the cut. -/
theorem cut_prepend (separates : separator ≠ []) (apart : ∀ c ∈ more, c ∉ separator) (text : List Char) :
    cut separator (more ++ text) =
      (cut separator text).map fun (before, after) => (more ++ before, after) := by
  unfold cut
  induction more with
  | nil =>
    rw [List.nil_append]
    cases cutOn id separator text <;> rfl
  | cons c rest inductionHypothesis =>
    obtain ⟨here, later⟩ := List.forall_mem_cons.mp apart
    have elsewhere : ¬ separator.isPrefixOf ((c :: (rest ++ text)).map id) = true := by
      rw [List.map_id, List.isPrefixOf_iff_prefix]
      cases separator with
      | nil => exact absurd rfl separates
      | cons d behind =>
        intro starts
        exact here (List.mem_cons.mpr (Or.inl (List.cons_prefix_cons.mp starts).1.symm))
    rw [List.cons_append, cutOn, if_neg elsewhere, inductionHypothesis later, Option.map_map]
    rfl

end Surroundings

/-! ## Trimmed pieces -/

section Trimming

variable {lead trail : List Char}

/-- Trimming takes blanks off both ends and leaves what is between. If all is blank, nothing is
left, and the blanks may be counted to either end. -/
theorem exists_around_trimChars (text : List Char) : ∃ lead trail,
    text = lead ++ (trimChars text ++ trail) ∧ (∀ c ∈ lead, isBlank c = true) ∧
      ∀ c ∈ trail, isBlank c = true := by
  refine ⟨text.takeWhile isBlank, ((text.dropWhile isBlank).reverse.takeWhile isBlank).reverse,
    ?_, fun c member => List.mem_takeWhile_imp member, fun c member => ?_⟩
  · rw [trimChars, ← List.reverse_append, List.takeWhile_append_dropWhile, List.reverse_reverse,
      List.takeWhile_append_dropWhile]
  · exact List.mem_takeWhile_imp (List.mem_reverse.mp member)

/-- Blanks in front of a text are trimmed. -/
theorem trimChars_prepend (blank : ∀ c ∈ lead, isBlank c = true) (text : List Char) :
    trimChars (lead ++ text) = trimChars text := by
  rw [trimChars, List.dropWhile_append_of_pos blank, trimChars]

/-- Blanks behind a text are trimmed. -/
theorem trimChars_append (blank : ∀ c ∈ trail, isBlank c = true) (text : List Char) :
    trimChars (text ++ trail) = trimChars text := by
  have reversed : ∀ c ∈ trail.reverse, isBlank c = true :=
    fun c member => blank c (List.mem_reverse.mp member)
  rw [trimChars, trimChars, List.dropWhile_append]
  split
  · rename_i empty
    rw [List.isEmpty_iff] at empty
    rw [empty, List.dropWhile_eq_nil_iff.mpr blank]
  · rw [List.reverse_append, List.dropWhile_append_of_pos reversed]

/-- A text without blanks is not trimmed. -/
theorem trimChars_eq_self {text : List Char} (shown : ∀ c ∈ text, isBlank c = false) :
    trimChars text = text := by
  have kept : ∀ row : List Char, (∀ c ∈ row, isBlank c = false) → row.dropWhile isBlank = row := by
    intro row inRow
    cases row with
    | nil => rfl
    | cons c rest => exact List.dropWhile_cons_of_neg (by simp [inRow c List.mem_cons_self])
  rw [trimChars, kept text shown, kept, List.reverse_reverse]
  intro c member
  exact shown c (List.mem_reverse.mp member)

/-- There is nothing of a separator in blanks, if it has none in it. -/
theorem apart_of_blank {row : List Char} (shown : ∀ c ∈ separator, isBlank c = false)
    (blank : ∀ c ∈ row, isBlank c = true) : ∀ c ∈ row, c ∉ separator := by
  intro c member inside
  exact absurd ((blank c member).symm.trans (shown c inside)) (by decide)

/-- Blanks behind a text go to its last piece, which is trimmed. For this no separator may have
blanks in it, or they could complete one. -/
theorem map_trimChars_splitAll_append (separates : separator ≠ [])
    (shown : ∀ c ∈ separator, isBlank c = false) (blank : ∀ c ∈ trail, isBlank c = true)
    (text : List Char) :
    (splitAll separator (text ++ trail)).map trimChars = (splitAll separator text).map trimChars := by
  have apart := apart_of_blank shown blank
  fun_induction splitAll separator text with
  | case1 text empty => exact absurd empty separates
  | case2 text _ missing =>
    have still := cut_append separates apart text
    rw [missing] at still
    rw [splitAll_of_uncut still]
    exact congrArg ([·]) (trimChars_append blank text)
  | case3 text _ before after found inductionHypothesis =>
    have still := cut_append separates apart text
    rw [found] at still
    rw [splitAll_of_cut separates still, List.map_cons, List.map_cons, inductionHypothesis]

/-- Blanks in front of a text go to its first piece, which is trimmed. -/
theorem map_trimChars_splitAll_prepend (separates : separator ≠ [])
    (shown : ∀ c ∈ separator, isBlank c = false) (blank : ∀ c ∈ lead, isBlank c = true)
    (text : List Char) :
    (splitAll separator (lead ++ text)).map trimChars = (splitAll separator text).map trimChars := by
  have still := cut_prepend separates (apart_of_blank shown blank) text
  cases found : cut separator text with
  | none =>
    rw [found] at still
    rw [splitAll_of_uncut still, splitAll_of_uncut found]
    exact congrArg ([·]) (trimChars_prepend blank text)
  | some pair =>
    rw [found] at still
    rw [splitAll_of_cut separates still, splitAll_of_cut separates found, List.map_cons, List.map_cons,
      trimChars_prepend blank]

/-- A text may be trimmed before it is taken to trimmed pieces: the blanks at its ends would be
trimmed off the first and the last piece anyway. -/
theorem map_trimChars_splitAll_trimChars (separates : separator ≠ [])
    (shown : ∀ c ∈ separator, isBlank c = false) (text : List Char) :
    (splitAll separator (trimChars text)).map trimChars =
      (splitAll separator text).map trimChars := by
  obtain ⟨lead, trail, parts, blankLead, blankTrail⟩ := exists_around_trimChars text
  calc (splitAll separator (trimChars text)).map trimChars
      = (splitAll separator (trimChars text ++ trail)).map trimChars :=
        (map_trimChars_splitAll_append separates shown blankTrail _).symm
    _ = (splitAll separator (lead ++ (trimChars text ++ trail))).map trimChars :=
        (map_trimChars_splitAll_prepend separates shown blankLead _).symm
    _ = (splitAll separator text).map trimChars := by rw [← parts]

end Trimming

end BoundSql.Text
