import BoundSql.Proofs.Statement.Placeholders
import BoundSql.Proofs.Text.Delimiter
import Mathlib.Data.List.Pairwise
import Mathlib.Order.WellFounded

/-!
# Which placeholders a reader finds

A reader goes from an opening brace to the next closing one and on from there. So
it finds a word in braces exactly where no brace before it is still open: an
opening brace that is text, in a literal or in a name, hides the next word in
braces. The main statement gives the words that are found in any text, and when
they are all that stand there.

The search takes a text as it is. It does not know literals, so a word in braces
in a literal counts like any other.
-/

namespace BoundSql.Statement

/-! ## Words in braces -/

/-- Behind a text no brace is open: a closing one follows every opening one. One closing brace
may serve for several opening ones. -/
def Settled (text : List Char) : Prop :=
  ∀ front inside, text = front ++ '\x7b' :: inside → '\x7d' ∈ inside

/-- A word in braces stands in a text, behind what comes before it. What comes before may hold
any braces. -/
def Stands (text word before : List Char) : Prop :=
  before ++ '\x7b' :: (word ++ ['\x7d']) <+: text

/-- A word in braces stands in a text where no brace is open. A brace that is still open would
take the closing brace of the word. -/
def Shown (text word before : List Char) : Prop :=
  Stands text word before ∧ Settled before

/-- One thing has a place before all places of another. It may have later places too. -/
def Earlier {α : Type} (places : α → List Char → Prop) (first second : α) : Prop :=
  ∃ before, places first before ∧ ∀ other, places second other → before.length < other.length

/-- A row of exactly the words of small letters that have a place, each once, in the order of
their first places. -/
structure Lists (places : String → List Char → Prop) (row : List String) : Prop where
  mem_iff : ∀ word, word ∈ row ↔ isWord word.toList = true ∧ ∃ before, places word before
  once : row.Nodup
  ordered : row.Pairwise (Earlier places)

/-- No open brace hides a word so that it is found nowhere, or behind a word that stands later. -/
def Unhidden (text : List Char) : Prop :=
  ∀ word : String, isWord word.toList = true → (∃ before, Stands text word.toList before) →
    (∃ before, Shown text word.toList before) ∧
      ∀ other : String, isWord other.toList = true →
        Earlier (Stands text) word.toList other.toList →
          Earlier (Shown text) word.toList other.toList

/-! ## Open braces -/

theorem settled_nil : Settled [] := by
  intro front inside parts
  simp at parts

/-- A last character that opens no brace stands behind the open one. -/
theorem opened_snoc {text front inside : List Char} {last : Char} (other : last ≠ '\x7b')
    (parts : text ++ [last] = front ++ '\x7b' :: inside) :
    ∃ inner, text = front ++ '\x7b' :: inner ∧ inside = inner ++ [last] := by
  rcases List.eq_nil_or_concat' inside with rfl | ⟨inner, final, rfl⟩
  · have same := List.append_inj_right' parts rfl
    exact absurd (List.cons.inj same).1 other
  · have regrouped : text ++ [last] = (front ++ '\x7b' :: inner) ++ [final] := by simp [parts]
    obtain ⟨shorter, same⟩ := List.append_inj' regrouped rfl
    exact ⟨inner, shorter, by rw [same]⟩

/-- Where no brace is open, none is open behind a character that opens none. -/
theorem Settled.snoc {text : List Char} {last : Char} (settled : Settled text)
    (other : last ≠ '\x7b') : Settled (text ++ [last]) := by
  intro front inside parts
  obtain ⟨inner, shorter, rfl⟩ := opened_snoc other parts
  exact List.mem_append_left _ (settled front inner shorter)

/-- A closing brace closes all that are open, for a reader goes on from there. -/
theorem settled_closed (text : List Char) : Settled (text ++ ['\x7d']) := by
  intro front inside parts
  obtain ⟨inner, -, rfl⟩ := opened_snoc (by decide) parts
  exact List.mem_append_right _ (List.mem_singleton.mpr rfl)

/-- There is only one open brace to which a reader goes back. -/
theorem opened_unique {front inside before word : List Char} (settled : Settled front)
    (unclosed : '\x7d' ∉ inside) (alsoSettled : Settled before) (bare : '\x7d' ∉ word)
    (same : front ++ '\x7b' :: inside = before ++ '\x7b' :: word) :
    front = before ∧ inside = word := by
  rcases List.append_eq_append_iff.mp same with ⟨more, rfl, parts⟩ | ⟨more, rfl, parts⟩
  · cases more with
    | nil => simpa using parts
    | cons c others =>
      obtain ⟨rfl, rfl⟩ := List.cons.inj parts
      exact absurd (List.mem_append_left _ (alsoSettled front others rfl)) unclosed
  · cases more with
    | nil => simpa [eq_comm] using parts
    | cons c others =>
      obtain ⟨rfl, rfl⟩ := List.cons.inj parts
      exact absurd (List.mem_append_left _ (settled before others rfl)) bare

/-! ## What is read, and where -/

/-- What stands between each opening brace and the next closing one, each with the text before its
brace, as a reader meets it who has passed some text already. The brace that is open, if there is
one, is given in the same way. -/
def bracedFrom : List Char → Option (List Char × List Char) → List Char →
    List (List Char × List Char)
  | _, _, [] => []
  | passed, none, c :: rest =>
    if c = '\x7b' then bracedFrom (passed ++ [c]) (some (passed, [])) rest
    else bracedFrom (passed ++ [c]) none rest
  | passed, some (front, inside), c :: rest =>
    if c = '\x7d' then (front, inside) :: bracedFrom (passed ++ [c]) none rest
    else bracedFrom (passed ++ [c]) (some (front, inside ++ [c])) rest

/-- Without the places it is what a reader reads. Following the text passed adds nothing to what
is found. -/
theorem map_bracedFrom (passed : List Char) (opened : Option (List Char × List Char))
    (rest : List Char) :
    (bracedFrom passed opened rest).map (·.2) =
      braced (opened.map fun brace => brace.2.reverse) rest := by
  induction rest generalizing passed opened with
  | nil => cases opened <;> rfl
  | cons c others inductionHypothesis =>
    cases opened with
    | none =>
      rw [bracedFrom, Option.map_none, braced]
      split
      · rw [inductionHypothesis]
        rfl
      · rw [inductionHypothesis]
        rfl
    | some brace =>
      rw [bracedFrom, Option.map_some, braced]
      split
      · rw [List.map_cons, inductionHypothesis, List.reverse_reverse]
        rfl
      · rw [inductionHypothesis, Option.map_some, List.reverse_append]
        rfl

/-- Which brace is open behind a text, if one is. -/
def Opens (passed : List Char) : Option (List Char × List Char) → Prop
  | none => Settled passed
  | some (front, inside) =>
    passed = front ++ '\x7b' :: inside ∧ Settled front ∧ '\x7d' ∉ inside

/-- Nothing that stands in a text ends behind it. -/
theorem Stands.length_le {text word before : List Char} (stands : Stands text word before) :
    before.length + word.length + 2 ≤ text.length := by
  have fits := List.IsPrefix.length_le stands
  simp only [List.length_append, List.length_cons, List.length_nil] at fits
  omega

/-- A word in braces that ends with the next character stands behind the text passed but for its
closing brace. -/
theorem Stands.ending {passed rest word before : List Char} {c : Char}
    (stands : Stands (passed ++ c :: rest) word before)
    (here : passed.length = before.length + word.length + 1) :
    c = '\x7d' ∧ passed = before ++ '\x7b' :: word := by
  obtain ⟨after, whole⟩ := stands
  have regrouped : (before ++ '\x7b' :: word) ++ '\x7d' :: after = passed ++ c :: rest := by
    rw [← whole]
    simp
  have length : (before ++ '\x7b' :: word).length = passed.length := by
    rw [here, List.length_append, List.length_cons, Nat.add_assoc]
  obtain ⟨same, follows⟩ := List.append_inj regrouped length
  exact ⟨(List.cons.inj follows).1.symm, same.symm⟩

/-- What is shown and does not end in the text passed ends with the next character or later. -/
theorem shown_step {passed rest word before : List Char} {c : Char} :
    Shown (passed ++ c :: rest) word before ∧ passed.length ≤ before.length + word.length + 1 ↔
      (c = '\x7d' ∧ passed = before ++ '\x7b' :: word ∧ Settled before) ∨
        Shown ((passed ++ [c]) ++ rest) word before ∧
          (passed ++ [c]).length ≤ before.length + word.length + 1 := by
  have regrouped : (passed ++ [c]) ++ rest = passed ++ c :: rest := by simp
  rw [regrouped, List.length_append, List.length_singleton]
  constructor
  · rintro ⟨⟨stands, settled⟩, remains⟩
    rcases Nat.eq_or_lt_of_le remains with here | later
    · obtain ⟨closing, same⟩ := stands.ending here
      exact Or.inl ⟨closing, same, settled⟩
    · exact Or.inr ⟨⟨stands, settled⟩, later⟩
  · rintro (⟨rfl, rfl, settled⟩ | ⟨shown, later⟩)
    · refine ⟨⟨⟨rest, by simp⟩, settled⟩, ?_⟩
      simp only [List.length_append, List.length_cons]
      omega
    · exact ⟨shown, Nat.le_of_succ_le later⟩

/-- A reader meets the words that are shown and do not end in the text passed, each at its
place. Induct over what is left to read; the open brace is known from what was passed. -/
theorem mem_bracedFrom {passed word before : List Char}
    {opened : Option (List Char × List Char)} (opens : Opens passed opened) (bare : '\x7d' ∉ word)
    (rest : List Char) : (before, word) ∈ bracedFrom passed opened rest ↔
      Shown (passed ++ rest) word before ∧ passed.length ≤ before.length + word.length + 1 := by
  induction rest generalizing passed opened with
  | nil =>
    have none : bracedFrom passed opened [] = [] := by cases opened <;> rfl
    rw [none, List.append_nil]
    refine iff_of_false List.not_mem_nil ?_
    rintro ⟨⟨stands, -⟩, remains⟩
    have fits := stands.length_le
    omega
  | cons c others inductionHypothesis =>
    rw [shown_step]
    cases opened with
    | none =>
      -- A brace that is closed here would have been open.
      have unopened : ¬(c = '\x7d' ∧ passed = before ++ '\x7b' :: word ∧ Settled before) :=
        fun ⟨_, parts, _⟩ => bare (opens before word parts)
      rw [bracedFrom, or_iff_right unopened]
      split
      · rename_i opening
        subst opening
        exact inductionHypothesis ⟨rfl, opens, List.not_mem_nil⟩
      · rename_i other
        exact inductionHypothesis (Settled.snoc opens other)
    | some brace =>
      obtain ⟨front, inside⟩ := brace
      obtain ⟨parts, settled, unclosed⟩ := opens
      rw [bracedFrom]
      split
      · rename_i closing
        subst closing
        have closed : Opens (passed ++ ['\x7d']) none := settled_closed passed
        rw [List.mem_cons, inductionHypothesis closed]
        refine or_congr_left ?_
        constructor
        · rintro ⟨⟩
          exact ⟨rfl, parts, settled⟩
        · rintro ⟨-, same, alsoSettled⟩
          obtain ⟨rfl, rfl⟩ :=
            opened_unique settled unclosed alsoSettled bare (parts.symm.trans same)
          rfl
      · rename_i other
        rw [or_iff_right fun ⟨closing, _⟩ => other closing]
        refine inductionHypothesis ⟨by simp [parts], settled, ?_⟩
        simpa [unclosed] using Ne.symm other

/-- The text before the brace that is read next. -/
def nextPlace (passed : List Char) (opened : Option (List Char × List Char)) : List Char :=
  opened.elim passed (·.1)

/-- What is read opens no earlier than the brace that is open, and what is read first opens
first. -/
theorem ordered_bracedFrom {passed : List Char} {opened : Option (List Char × List Char)}
    (opens : Opens passed opened) (rest : List Char) :
    (∀ entry ∈ bracedFrom passed opened rest,
        (nextPlace passed opened).length ≤ entry.1.length) ∧
      (bracedFrom passed opened rest).Pairwise fun first second =>
        first.1.length < second.1.length := by
  induction rest generalizing passed opened with
  | nil => cases opened <;> exact ⟨fun entry member => absurd member List.not_mem_nil, .nil⟩
  | cons c others inductionHypothesis =>
    cases opened with
    | none =>
      rw [bracedFrom]
      split
      · rename_i opening
        subst opening
        exact inductionHypothesis ⟨rfl, opens, List.not_mem_nil⟩
      · rename_i other
        have still : Opens (passed ++ [c]) none := Settled.snoc opens other
        obtain ⟨behind, ordered⟩ := inductionHypothesis still
        refine ⟨fun entry member => ?_, ordered⟩
        have later := behind entry member
        simp only [nextPlace, Option.elim_none, List.length_append] at later ⊢
        omega
    | some brace =>
      obtain ⟨front, inside⟩ := brace
      obtain ⟨parts, settled, unclosed⟩ := opens
      rw [bracedFrom]
      split
      · rename_i closing
        subst closing
        have closed : Opens (passed ++ ['\x7d']) none := settled_closed passed
        obtain ⟨behind, ordered⟩ := inductionHypothesis closed
        have later : ∀ entry ∈ bracedFrom (passed ++ ['\x7d']) none others,
            front.length < entry.1.length := by
          intro entry member
          have beyond := behind entry member
          simp only [nextPlace, Option.elim_none, parts, List.length_append,
            List.length_cons] at beyond
          omega
        refine ⟨?_, List.pairwise_cons.mpr ⟨later, ordered⟩⟩
        exact List.forall_mem_cons.mpr ⟨Nat.le_refl _, fun entry member =>
          Nat.le_of_lt (later entry member)⟩
      · rename_i other
        refine inductionHypothesis ⟨by simp [parts], settled, ?_⟩
        simpa [unclosed] using Ne.symm other

/-! ## The tokens of a text -/

/-- What is read, without the places and the texts that are no words. -/
theorem words_eq_map (text : List Char) :
    (braced none text).filter isWord =
      ((bracedFrom [] none text).filter fun entry => isWord entry.2).map (·.2) := by
  have whole : (bracedFrom [] none text).map (·.2) = braced none text := map_bracedFrom [] none text
  rw [← whole, List.filter_map]
  rfl

/-- A word of small letters has no closing brace. -/
theorem unclosed_of_isWord {word : List Char} (small : isWord word = true) : '\x7d' ∉ word :=
  fun member => (bare_of_isWord small _ member).2 rfl

/-- A word is read at the places where it is shown. -/
theorem mem_filter_bracedFrom {text before word : List Char} :
    (before, word) ∈ (bracedFrom [] none text).filter (fun entry => isWord entry.2) ↔
      Shown text word before ∧ isWord word = true := by
  rw [List.mem_filter]
  refine and_congr_left fun small => ?_
  have unclosed : '\x7d' ∉ word := unclosed_of_isWord small
  have opens : Opens [] none := settled_nil
  rw [mem_bracedFrom opens unclosed]
  simp

/-- The words that are found are those that are shown. How often a word is shown does not
matter. -/
theorem mem_found {text word : List Char} :
    word ∈ ((braced none text).filter isWord).foldl appear [] ↔
      isWord word = true ∧ ∃ before, Shown text word before := by
  rw [mem_foldl_appear, words_eq_map, List.mem_map, or_iff_right List.not_mem_nil]
  constructor
  · rintro ⟨⟨before, same⟩, read, rfl⟩
    obtain ⟨shown, small⟩ := mem_filter_bracedFrom.mp read
    exact ⟨small, before, shown⟩
  · rintro ⟨small, before, shown⟩
    exact ⟨(before, word), mem_filter_bracedFrom.mpr ⟨shown, small⟩, rfl⟩

/-- The words that are found are in the order in which they are shown first. -/
theorem ordered_found (text : List Char) :
    (((braced none text).filter isWord).foldl appear []).Pairwise (Earlier (Shown text)) := by
  have opens : Opens [] none := settled_nil
  have ordered := (ordered_bracedFrom opens text).2.filter fun entry => isWord entry.2
  refine (pairwise_foldl_appear _).imp_of_mem ?_
  rintro first second - position ⟨front, back, parts, new⟩
  obtain ⟨small, -⟩ := mem_found.mp position
  rw [words_eq_map, List.map_eq_append_iff] at parts
  obtain ⟨earlier, later, entries, rfl, behind⟩ := parts
  obtain ⟨⟨before, word⟩, remaining, rfl, rfl, rfl⟩ := List.map_eq_cons_iff.mp behind
  rw [entries, List.pairwise_append, List.pairwise_cons] at ordered
  have here : (before, word) ∈ (bracedFrom [] none text).filter fun entry => isWord entry.2 :=
    entries ▸ List.mem_append_right earlier List.mem_cons_self
  refine ⟨before, (mem_filter_bracedFrom.mp here).1, fun other shown => ?_⟩
  have read := mem_filter_bracedFrom.mpr ⟨shown, small⟩
  rw [entries, List.mem_append, List.mem_cons] at read
  rcases read with before | ⟨⟨⟩⟩ | after
  · exact absurd (List.mem_append_left _ (List.mem_map_of_mem before)) new
  · exact absurd (List.mem_append_right _ (List.mem_singleton.mpr rfl)) new
  · exact ordered.2.1.1 _ after

/-- The tokens of a text are its words in braces, as far as they are shown. -/
theorem lists_tokensIn (text : List Char) :
    Lists (fun word => Shown text word.toList) (tokensIn text) := by
  have found : tokensIn text =
      (((braced none text).filter isWord).foldl appear []).map String.ofList := rfl
  have apart : Function.Injective String.ofList := fun first second same => by
    simpa using congrArg String.toList same
  rw [found]
  refine ⟨fun word => ?_, ?_, ?_⟩
  · rw [← mem_found, ← List.mem_map_of_injective apart, String.ofList_toList]
  · exact (nodup_foldl_appear List.nodup_nil).map apart
  · rw [List.pairwise_map]
    simp only [Earlier, String.toList_ofList]
    exact ordered_found text

/-! ## Comparing with all places -/

/-- Only one word stands at a place: it ends at the first closing brace, which a word does not
hold. -/
theorem Stands.eq_of_length {text word other before after : List Char}
    (stands : Stands text word before) (alsoStands : Stands text other after)
    (small : isWord word = true) (alsoSmall : isWord other = true)
    (same : before.length = after.length) : word = other := by
  obtain ⟨rest, whole⟩ := stands
  obtain ⟨remaining, total⟩ := alsoStands
  have parts : before ++ ('\x7b' :: (word ++ '\x7d' :: rest)) =
      after ++ ('\x7b' :: (other ++ '\x7d' :: remaining)) := by
    simpa using whole.trans total.symm
  obtain ⟨-, behind⟩ := List.append_inj parts same
  have inside : ∀ {word : List Char}, isWord word = true → ∀ c ∈ word, (c != '\x7d') = true :=
    fun small c member => by simpa using (bare_of_isWord small c member).2
  exact (Text.eq_of_delimited (fun c => c != '\x7d') (inside small) (inside alsoSmall)
    (by decide) (by decide) (List.cons.inj behind).2).1

/-- What has a place has a first one, because places are counted from the start of the text. -/
theorem exists_first {places : List Char → Prop} (somewhere : ∃ before, places before) :
    ∃ before, places before ∧ ∀ other, places other → before.length ≤ other.length := by
  obtain ⟨before, place, least⟩ :=
    (measure List.length).wf.has_min {before | places before} somewhere
  exact ⟨before, place, fun other placed => Nat.le_of_not_lt (least other placed)⟩

/-- Of two words that stand in a text, one stands there first. -/
theorem earlier_or_earlier {text word other : List Char} (small : isWord word = true)
    (alsoSmall : isWord other = true) (apart : word ≠ other)
    (stands : ∃ before, Stands text word before) (alsoStands : ∃ before, Stands text other before) :
    Earlier (Stands text) word other ∨ Earlier (Stands text) other word := by
  obtain ⟨before, place, least⟩ := exists_first stands
  obtain ⟨after, alsoPlace, alsoLeast⟩ := exists_first alsoStands
  rcases Nat.lt_trichotomy before.length after.length with first | same | first
  · exact Or.inl ⟨before, place, fun further placed => first.trans_le (alsoLeast further placed)⟩
  · exact absurd (place.eq_of_length alsoPlace small alsoSmall same) apart
  · exact Or.inr ⟨after, alsoPlace, fun further placed => first.trans_le (least further placed)⟩

/-- Of two things not both are first. Neither need be: things without places have none. -/
theorem Earlier.asymm {α : Type} {places : α → List Char → Prop} {first second : α}
    (earlier : Earlier places first second) : ¬Earlier places second first := by
  rintro ⟨before, place, least⟩
  obtain ⟨other, otherPlace, otherLeast⟩ := earlier
  exact Nat.lt_asymm (least other otherPlace) (otherLeast before place)

/-- The tokens of a text are all its words in braces exactly if none is hidden. -/
theorem lists_stands_iff (text : List Char) :
    Lists (fun word => Stands text word.toList) (tokensIn text) ↔ Unhidden text := by
  have shown := lists_tokensIn text
  constructor
  · intro all word small stands
    have found : word ∈ tokensIn text := (all.mem_iff word).mpr ⟨small, stands⟩
    obtain ⟨-, before, place⟩ := (shown.mem_iff word).mp found
    refine ⟨⟨before, place⟩, fun other alsoSmall earlier => ?_⟩
    by_cases alsoShown : ∃ before, Shown text other.toList before
    · have alsoFound : other ∈ tokensIn text := (shown.mem_iff other).mpr ⟨alsoSmall, alsoShown⟩
      have apart : word ≠ other := by
        rintro rfl
        exact earlier.asymm earlier
      -- The row is in both orders, so no two of its words can be in only one of them.
      let agree (first second : String) : Prop :=
        Earlier (Stands text) first.toList second.toList →
          Earlier (Shown text) first.toList second.toList
      have both : (tokensIn text).Pairwise fun first second =>
          agree first second ∧ agree second first :=
        (all.ordered.and shown.ordered).imp fun ⟨stands, shown⟩ =>
          ⟨fun _ => shown, fun other => absurd other (Earlier.asymm stands)⟩
      have : Std.Symm fun first second => agree first second ∧ agree second first :=
        ⟨fun _ _ => And.symm⟩
      exact (both.forall found alsoFound apart).1 earlier
    · exact ⟨before, place, fun after placed => absurd ⟨after, placed⟩ alsoShown⟩
  · intro agree
    refine ⟨fun word => ?_, shown.once, shown.ordered.imp_of_mem ?_⟩
    · rw [shown.mem_iff]
      refine and_congr_right fun small => ⟨?_, fun stands => (agree word small stands).1⟩
      rintro ⟨before, stands, -⟩
      exact ⟨before, stands⟩
    · intro first second found alsoFound earlier
      obtain ⟨small, before, stands, -⟩ := (shown.mem_iff first).mp found
      obtain ⟨alsoSmall, after, alsoStands, -⟩ := (shown.mem_iff second).mp alsoFound
      have apart : first.toList ≠ second.toList := by
        intro same
        obtain rfl := String.toList_inj.mp same
        exact Earlier.asymm earlier earlier
      refine (earlier_or_earlier small alsoSmall apart ⟨before, stands⟩
        ⟨after, alsoStands⟩).resolve_right fun turned => ?_
      have earlierToo := (agree second alsoSmall ⟨after, alsoStands⟩).2 first small turned
      exact Earlier.asymm earlier earlierToo

/-- Where no word in braces stands behind an open brace, none is hidden. The converse fails: a
word may also be shown elsewhere. -/
theorem unhidden_of_settled {text : List Char}
    (settled : ∀ word before, isWord word = true → Stands text word before → Settled before) :
    Unhidden text := by
  rintro word small ⟨before, stands⟩
  refine ⟨⟨before, stands, settled _ before small stands⟩, ?_⟩
  rintro other - ⟨first, place, least⟩
  exact ⟨first, ⟨place, settled _ first small place⟩, fun after shown => least after shown.1⟩

/-- The tokens read in a statement are, in any text, the words of small letters that stand in
braces where no brace is open, each once, in the order in which they first stand so. These are all
words in braces, in the order of their first places, exactly if no open brace hides one; that is
so where none stands behind an open brace.

Proof: the reader is followed with the text it has passed, from which it is known whether a brace
is open. A word is read exactly when its closing brace is the next character and the brace that is
open is its own. What is read at later places is read later, so the words appear in the order of
their places. -/
theorem referencedTokens_shown (statement : Statement) :
    let text := statement.sql.toList
    Lists (fun word => Shown text word.toList) statement.referencedTokens ∧
      (Lists (fun word => Stands text word.toList) statement.referencedTokens ↔ Unhidden text) ∧
      ((∀ word before, isWord word = true → Stands text word before → Settled before) →
        Lists (fun word => Stands text word.toList) statement.referencedTokens) := by
  intro text
  have complete := lists_stands_iff text
  exact ⟨lists_tokensIn text, complete, fun settled => complete.mpr (unhidden_of_settled settled)⟩

/-- A brace in a literal hides the placeholder behind it, so not all words in braces are found. -/
theorem referencedTokens_hidden :
    let statement : Statement := ⟨"select '\x7b', \x7ba\x7d from t", Parameters.empty⟩
    ¬Lists (fun word => Stands statement.sql.toList word.toList) statement.referencedTokens := by
  intro statement all
  have small : isWord "a".toList = true := by decide
  have stands : Stands statement.sql.toList "a".toList "select '\x7b', ".toList :=
    ⟨" from t".toList, by decide⟩
  have found : "a" ∈ statement.referencedTokens := (all.mem_iff "a").mpr ⟨small, _, stands⟩
  exact absurd found (by decide)

end BoundSql.Statement
